import FlowDiagram.Sequence.Merge

/-!
# Sorting with an order that may fail

Sorting compares items two at a time, and a comparison may fail because the two have no order. The
first failing comparison ends the sorting, so it matters which items are compared.

Items are cut into runs that are in order already, or strictly in reverse order. A run that is too
short takes in some of the items behind it, each put in its place by halving. Runs are merged with
their neighbours as they are found, so that the merges make a balanced tree: seen as fractions of
the whole, the middles of two neighbours agree in their first binary digits, and the boundary
between them lies as deep as they agree. Deep boundaries go first.

## Main definitions

* `splitRun`: the run at the front.
* `SortedRun`: a sorted run among all items.
* `sortBy`: items in order, or the failure of the first comparison that fails.
-/

namespace FlowDiagram

variable {α ε : Type}

/-- How many further items are in order with the one before them, where `inOrder` says whether an
item may follow another one. -/
def runLength (inOrder : α → α → Except ε Bool) (last : α) : List α → Except ε Nat
  | [] => .ok 0
  | next :: rest => do
    if ← inOrder last next then
      let length ← runLength inOrder next rest
      pure (length + 1)
    else pure 0

/-- The run of items in front, in order, and the items behind it. A run in strictly reverse order is
turned around. -/
def splitRun (before : α → α → Except ε Bool) : List α → Except ε (List α × List α)
  | first :: second :: rest => do
    let reversed ← before second first
    let inOrder (a b : α) : Except ε Bool := (before b a).map (· == reversed)
    let length ← runLength inOrder second rest
    let run := first :: second :: rest.take length
    pure (if reversed then run.reverse else run, rest.drop length)
  | items => .ok (items, [])

/-- Puts an item in its place among sorted ones, behind those that are equal to it. -/
def insertSorted (before : α → α → Except ε Bool) (sorted : List α) (item : α) :
    Except ε (List α) := do
  let items := sorted.toArray
  let goesBefore (i : Nat) := items[i]?.map fun other => (before item other).map not
  let place ← halve (fun i => (goesBefore i).getD (.ok false)) 0 items.size
  pure (sorted.take place ++ item :: sorted.drop place)

/-- The number of items from which on there are several runs. -/
def severalRuns : Nat := 64

/-- The least length of a run: the number of items is halved until one run can take them, and
rounded up in the end. -/
def leastRun (count remainder : Nat) : Nat :=
  if _h : count < severalRuns then count + remainder
  else leastRun (count / 2) (max remainder (count % 2))
termination_by count
decreasing_by
  have : severalRuns = 64 := rfl
  omega

/-- The run of items in front, which takes in items behind it to be long enough, and the items
behind it. -/
def nextRun (before : α → α → Except ε Bool) (least : Nat) (items : List α) :
    Except ε (List α × List α) := do
  let (run, rest) ← splitRun before items
  let missing := least - run.length
  let run ← (rest.take missing).foldlM (insertSorted before) run
  pure (run, rest.drop missing)

/-- A sorted run among all items: where it starts, and how deep the boundary before it lies. -/
structure SortedRun (α : Type) where
  start : Nat
  depth : Nat
  items : List α

/-- How deep the boundary between two neighbours among `count` items lies: the number of binary
digits up to the first one in which their middles differ. The middles are given doubled, so that
they are integers. -/
def boundaryDepth (count middle next : Nat) : Nat :=
  ((List.range count).takeWhile fun n => middle <<< n / count = next <<< n / count).length + 1

/-- The depth of the boundary before a run of a length, which starts at a position, among `count`
items; `runs` are those before it, the latest first. -/
def depthAfter (count start length : Nat) (runs : List (SortedRun α)) : Nat :=
  match runs with
  | [] => 0
  | run :: _ => boundaryDepth count (run.start + start) (2 * start + length)

/-- Merges the latest runs, as long as the boundary between them lies deeper than the next one. -/
def mergeDeeper (before : α → α → Except ε Bool) (depth : Nat) :
    (patience : Nat) → List (SortedRun α) → Except ε (List (SortedRun α) × Nat)
  | patience, run :: previous :: runs =>
    if depth < run.depth then do
      let (items, patience) ← mergeRuns before patience previous.items run.items
      mergeDeeper before depth patience ({ previous with items } :: runs)
    else .ok (run :: previous :: runs, patience)
  | patience, runs => .ok (runs, patience)
termination_by _ runs => runs.length

/-- Merges all runs, the latest ones first; the one before them goes first if it is shorter than the
latest one. -/
def mergeAll (before : α → α → Except ε Bool) :
    (patience : Nat) → List (SortedRun α) → Except ε (List α)
  | _, [] => .ok []
  | _, [run] => .ok run.items
  | patience, [run, previous] =>
    (mergeRuns before patience previous.items run.items).map Prod.fst
  | patience, run :: previous :: earlier :: runs =>
    if earlier.items.length < run.items.length then do
      let (items, patience) ← mergeRuns before patience earlier.items previous.items
      mergeAll before patience (run :: { earlier with items } :: runs)
    else do
      let (items, patience) ← mergeRuns before patience previous.items run.items
      mergeAll before patience ({ previous with items } :: earlier :: runs)
termination_by _ runs => runs.length

/-- Finds the runs among items and merges them. Every step takes an item, so the number of items is
fuel enough. `runs` are the runs in front of the items, the latest first. -/
def sortFrom (before : α → α → Except ε Bool) (count : Nat) :
    (fuel patience : Nat) → List (SortedRun α) → List α → Except ε (List α)
  | 0, patience, runs, _ => mergeAll before patience runs
  | _, patience, runs, [] => mergeAll before patience runs
  | fuel + 1, patience, runs, items => do
    let (run, rest) ← nextRun before (leastRun count 0) items
    let start := count - items.length
    let depth := depthAfter count start run.length runs
    let (runs, patience) ← mergeDeeper before depth patience runs
    sortFrom before count fuel patience ({ start, depth, items := run } :: runs) rest

/-- Items in order, equal ones as they were. `before` says whether an item comes strictly before
another one, and may fail. -/
def sortBy (before : α → α → Except ε Bool) (items : List α) : Except ε (List α) :=
  sortFrom before items.length items.length worthwhile [] items

end FlowDiagram
