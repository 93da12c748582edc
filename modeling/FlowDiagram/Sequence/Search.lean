/-!
# Searching sorted items

A key is sought among sorted items, which are known by their positions: the items that go before the
key come first, and its place is the number of them. Asking whether an item goes before the key may
fail, and the first question that fails ends the search, so it matters which items are asked about.

## Main definitions

* `halve`: the place of a key in a range, found by asking about the middle.
* `gallop`: the place of a key that is expected near some position.
-/

namespace FlowDiagram

variable {ε : Type}

/-- The place of a key from `low` up to `high`. Each step asks about the item in the middle. -/
def halve (goesBefore : Nat → Except ε Bool) (low high : Nat) : Except ε Nat :=
  if _h : low < high then do
    let middle := (low + high) / 2
    if ← goesBefore middle then halve goesBefore (middle + 1) high
    else halve goesBefore low middle
  else .ok low
termination_by high - low

/-- Strides away while `goesOn` holds, by distances that double and stay below `limit`. The result
is the last distance at which it held, and one at which it no longer does. -/
def stride (goesOn : Nat → Except ε Bool) (limit passed distance : Nat) :
    Except ε (Nat × Nat) :=
  if _h : distance < limit then do
    if ← goesOn distance then stride goesOn limit distance (2 * distance + 1)
    else .ok (passed, distance)
  else .ok (passed, limit)
termination_by limit - distance

/-- The place of a key among `count` items. The search strides away from the item at `hint`, upwards
or downwards, and then halves the range between its last two strides. -/
def gallop (goesBefore : Nat → Except ε Bool) (count hint : Nat) : Except ε Nat := do
  if ← goesBefore hint then
    let (passed, distance) ← stride (fun d => goesBefore (hint + d)) (count - hint) 0 1
    halve goesBefore (hint + passed + 1) (hint + distance)
  else
    let (passed, distance) ←
      stride (fun d => (goesBefore (hint - d)).map not) (hint + 1) 0 1
    halve goesBefore (hint + 1 - distance) (hint - passed)

end FlowDiagram
