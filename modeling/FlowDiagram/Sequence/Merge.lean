import FlowDiagram.Sequence.Search

/-!
# Merging sorted runs

Two neighbouring runs become one; equal items stay in the order of the runs. What need not move is
left alone first: the items of the left run that go before all of the right one, and the items of
the right run that go behind all of the left one. The rest is merged from the front if the left run
is not the longer one, and from the back otherwise.

Merging compares the next items of both runs, as long as neither of them wins time after time. When
one has won as often in a row as there is patience for, the merging gallops: it seeks how many items
of a run go before the next item of the other one, and takes them all at once. Galloping that pays
off makes it less patient, and galloping that does not makes it more so.

A comparison may fail, and the first one that does ends the merging.

## Main definitions

* `Merging`: two runs while they are merged.
* `mergeRuns`: two sorted runs as one.
-/

namespace FlowDiagram

variable {α ε : Type}

/-- The end from which two runs are merged. -/
inductive MergeEnd
  | front
  | back
  deriving DecidableEq, Repr

/-- Two runs while they are merged, both read from the end at which the merging started. The last of
the `held` items is known to come last of all. -/
structure Merging (α : Type) where
  held : List α
  other : List α
  /-- What was taken, the latest item first. -/
  taken : List α := []
  /-- How often in a row one run may win before the merging gallops. -/
  patience : Nat

/-- How a merging goes on: by comparing the next items, of which one or the other has won a number
of times in a row, or by galloping, which may have just begun. -/
inductive MergePace
  | comparing (heldWins otherWins : Nat)
  | galloping (hasBegun : Bool)

/-- How many items galloping has to take at once to go on. -/
def worthwhile : Nat := 7

namespace Merging

/-- Whether the order of what is left is known. -/
def isOver (merging : Merging α) : Bool :=
  match merging.held, merging.other with
  | _, [] | [], _ | [_], _ => true
  | _, _ => false

/-- All items in order, from the end at which the merging started. -/
def result (merging : Merging α) : List α :=
  merging.taken.reverse ++ merging.other ++ merging.held

/-- Takes the next held items. -/
def takeHeld (count : Nat) (merging : Merging α) : Merging α :=
  { merging with
    held := merging.held.drop count
    taken := (merging.held.take count).reverse ++ merging.taken }

/-- Takes the next of the other items. -/
def takeOther (count : Nat) (merging : Merging α) : Merging α :=
  { merging with
    other := merging.other.drop count
    taken := (merging.other.take count).reverse ++ merging.taken }

/-- How many of the next items go first, sought from the next one on. Positions are counted from the
front in any case. -/
def leading (side : MergeEnd) (goesFirst : α → Except ε Bool) (items : List α) : Except ε Nat :=
  let items := items.toArray
  let ask (position : Nat) : Except ε Bool := (items[position]?.map goesFirst).getD (.ok false)
  let last := items.size - 1
  match side with
  | .front => gallop ask items.size 0
  | .back =>
    (gallop (fun position => (ask (last - position)).map not) items.size last).map
      fun place => items.size - place

/-- Takes the held items that go before the next other one, and then that one. The result also tells
how many they were. -/
def gallopHeld (side : MergeEnd) (yields : α → α → Except ε Bool) (merging : Merging α) :
    Except ε (Nat × Merging α) :=
  match merging.isOver, merging.other with
  | false, next :: _ => do
    let count ← leading side (fun item => (yields item next).map not) merging.held
    let merging := merging.takeHeld count
    pure (count, if merging.isOver then merging else merging.takeOther 1)
  | _, _ => .ok (0, merging)

/-- Takes the other items that go before the next held one, and then that one. The result also tells
how many they were. -/
def gallopOther (side : MergeEnd) (yields : α → α → Except ε Bool) (merging : Merging α) :
    Except ε (Nat × Merging α) :=
  match merging.isOver, merging.held with
  | false, next :: _ => do
    let count ← leading side (fun item => yields next item) merging.other
    let merging := merging.takeOther count
    pure (count, if merging.isOver then merging else merging.takeHeld 1)
  | _, _ => .ok (0, merging)

/-- Gallops in both runs, in the left one first. The result also tells the greater number of items
that were taken at once. -/
def gallopBoth (side : MergeEnd) (yields : α → α → Except ε Bool) (merging : Merging α) :
    Except ε (Nat × Merging α) := do
  let (first, second) := match side with
    | .front => (gallopHeld side yields, gallopOther side yields)
    | .back => (gallopOther side yields, gallopHeld side yields)
  let (count, merging) ← first merging
  let (next, merging) ← second merging
  pure (max count next, merging)

/-- Compares the next items, where the held one yields to the other one or not, and takes the one
that goes first. -/
def compare (yields : α → α → Except ε Bool) (heldWins otherWins : Nat) (merging : Merging α) :
    Except ε (MergePace × Merging α) :=
  match merging.held, merging.other with
  | held :: _, other :: _ => do
    let (heldWins, otherWins, merging) :=
      if ← yields held other then (0, otherWins + 1, merging.takeOther 1)
      else (heldWins + 1, 0, merging.takeHeld 1)
    if merging.patience ≤ max heldWins otherWins then pure (.galloping true, merging)
    else pure (.comparing heldWins otherWins, merging)
  | _, _ => .ok (.comparing heldWins otherWins, merging)

/-- Goes on until the order of what is left is known. Every step takes an item, so the number of
items is fuel enough. -/
def goOn (side : MergeEnd) (yields : α → α → Except ε Bool) :
    (fuel : Nat) → MergePace → Merging α → Except ε (Merging α)
  | 0, _, merging => .ok merging
  | fuel + 1, pace, merging =>
    if merging.isOver then .ok merging
    else
      match pace with
      | .comparing heldWins otherWins => do
        let (pace, merging) ← merging.compare yields heldWins otherWins
        goOn side yields fuel pace merging
      | .galloping hasBegun => do
        let patience := if hasBegun then merging.patience else max 1 (merging.patience - 1)
        let (count, merging) ← gallopBoth side yields { merging with patience }
        if worthwhile ≤ count || merging.isOver then
          goOn side yields fuel (.galloping false) merging
        else
          goOn side yields fuel (.comparing 0 0)
            { merging with patience := merging.patience + 1 }

/-- Merges two runs, of which the other one is known to begin. -/
def run (side : MergeEnd) (yields : α → α → Except ε Bool) (merging : Merging α) :
    Except ε (Merging α) :=
  goOn side yields (merging.held.length + merging.other.length) (.comparing 0 0)
    (merging.takeOther 1)

end Merging

/-- Merges two runs of which the right one begins and the left one ends. The result comes with the
patience that is left. -/
def mergeOverlap (before : α → α → Except ε Bool) (patience : Nat) (left right : List α) :
    Except ε (List α × Nat) :=
  if left.length ≤ right.length then do
    let yields (held other : α) : Except ε Bool := before other held
    let merging ← Merging.run .front yields { held := left, other := right, patience }
    pure (merging.result, merging.patience)
  else do
    let merging ←
      Merging.run .back before { held := right.reverse, other := left.reverse, patience }
    pure (merging.result.reverse, merging.patience)

/-- Two neighbouring sorted runs as one, and the patience that is left. -/
def mergeRuns (before : α → α → Except ε Bool) (patience : Nat) (left right : List α) :
    Except ε (List α × Nat) := do
  let lefts := left.toArray
  let rights := right.toArray
  match right.head? with
  | none => pure (left, patience)
  | some first =>
    let goesBefore (i : Nat) := (lefts[i]?.map fun item => (before first item).map not)
    let start ← gallop (fun i => (goesBefore i).getD (.ok false)) left.length 0
    match (left.drop start).getLast? with
    | none => pure (left ++ right, patience)
    | some last =>
      let goesBefore (i : Nat) := (rights[i]?.map fun item => before item last)
      let stop ←
        gallop (fun i => (goesBefore i).getD (.ok false)) right.length (right.length - 1)
      if stop = 0 then pure (left ++ right, patience)
      else
        let (merged, patience) ← mergeOverlap before patience (left.drop start) (right.take stop)
        pure (left.take start ++ merged ++ right.drop stop, patience)

end FlowDiagram
