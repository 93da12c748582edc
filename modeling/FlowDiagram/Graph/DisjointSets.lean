import FlowDiagram.Sequence.Rows
import Std.Data.HashMap

/-!
# Disjoint sets

A partition of the items added so far. Every item points to a parent in its own set, and the root
of a set points to itself. Joining two sets hangs one root below the other; looking a root up
shortens the way to it for every item on the path.

## Main definitions

* `DisjointSets`: items in the order they were added, and their parents.
* `DisjointSets.find`: the root of an item's set, and the structure with shorter paths.
* `DisjointSets.union`: joins the sets of two items.
* `DisjointSets.groups`: the sets.
-/

namespace FlowDiagram

/-- Items in the order they were added, and the parent of each of them. -/
structure DisjointSets (α : Type) [DecidableEq α] [Hashable α] where
  items : List α
  parents : Std.HashMap α α

namespace DisjointSets

variable {α : Type} [DecidableEq α] [Hashable α]

/-- No items. -/
def empty : DisjointSets α := ⟨[], ∅⟩

/-- The parent of an item. -/
def parent? (sets : DisjointSets α) (item : α) : Option α :=
  sets.parents[item]?

/-- Gives an item another parent. -/
def setParent (sets : DisjointSets α) (item parent : α) : DisjointSets α :=
  { sets with parents := sets.parents.insert item parent }

/-- Adds an item as a set of its own, unless it is there. -/
def add (sets : DisjointSets α) (item : α) : DisjointSets α :=
  if (sets.parent? item).isSome then sets
  else { items := sets.items ++ [item], parents := sets.parents.insert item item }

/-- Follows parents for at most a number of steps, and stops at a root. -/
def climb (sets : DisjointSets α) : Nat → α → α
  | 0, item => item
  | steps + 1, item =>
    match sets.parent? item with
    | none => item
    | some parent => if parent = item then item else climb sets steps parent

/-- The root of an item's set. No path is longer than the number of items. -/
def root (sets : DisjointSets α) (item : α) : α :=
  sets.climb sets.parents.size item

/-- Points every item on the way to a root directly at it, for at most a number of steps. -/
def compress (root : α) : Nat → α → DisjointSets α → DisjointSets α
  | 0, _, sets => sets
  | steps + 1, item, sets =>
    match sets.parent? item with
    | none => sets
    | some parent =>
      if parent = root then sets else compress root steps parent (sets.setParent item root)

/-- The root of an item's set, and the structure with the path to it shortened. -/
def find (sets : DisjointSets α) (item : α) : α × DisjointSets α :=
  let root := sets.root item
  (root, compress root sets.parents.size item sets)

/-- Joins the sets of two items, which are added if they are not there. -/
def union (sets : DisjointSets α) (a b : α) : DisjointSets α :=
  let (rootA, sets) := ((sets.add a).add b).find a
  let (rootB, sets) := sets.find b
  if rootA = rootB then sets else sets.setParent rootB rootA

/-- Puts items into the groups of their roots, shortening paths on the way. Groups are kept in the
order of their first items. -/
def gather : List α → DisjointSets α → List (α × List α) → List (α × List α)
  | [], _, groups => groups
  | item :: items, sets, groups =>
    let (root, sets) := sets.find item
    gather items sets (changeRow root [] (· ++ [item]) groups)

/-- The sets, each with its items in the order they were added. -/
def groups (sets : DisjointSets α) : List (List α) :=
  (gather sets.items sets []).map Prod.snd

/-- Joins all items of a list with the first of them. -/
def unionAll (sets : DisjointSets α) : List α → DisjointSets α
  | [] => sets
  | first :: rest => (first :: rest).foldl (fun sets item => sets.union first item) sets

end DisjointSets

end FlowDiagram
