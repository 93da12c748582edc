import FlowDiagram.Graph.Edge
import FlowDiagram.Sequence.Rows
import FlowDiagram.Text.Digit
import FlowDiagram.Text.Edit

/-!
# Consolidation

Many transitions may lead from one activity to another. Parallel edges are consolidated into few
that can be read: a few edges become one that shows their number and an example, many become one
that shows their number only. Back edges are never mixed with forward edges.

A consolidated edge keeps the number of transitions it stands for, so that consolidating it again
changes nothing.

## Main definitions

* `markBackEdges`: marks the edges between the ends of back edges.
* `ConsolidationOptions`: the thresholds and lengths of consolidation.
* `consolidate`: one group of edges per pair of ends and direction, consolidated.
* `consolidateGiven`: the same for edges whose numbers may be too long to be shown.
-/

namespace FlowDiagram

/-- Marks every edge whose ends are those of a back edge. -/
def markBackEdges (backEdges : List (Name × Name)) (edges : List Edge) : List Edge :=
  edges.map fun edge =>
    if backEdges.contains edge.ends then { edge with isBackEdge := true } else edge

/-- What decides how edges are consolidated. -/
structure ConsolidationOptions where
  showConditions : Bool := false
  summaryThreshold : Int := 2
  boldThreshold : Int := 4
  exampleMaxLength : Int := 40
  deriving DecidableEq, Repr

/-- What edges of one group have in common: their ends and their direction. -/
structure EdgeKey where
  source : Name
  target : Name
  isBackEdge : Bool
  deriving DecidableEq, Repr

/-- The key of an edge. -/
def Edge.key (edge : Edge) : EdgeKey :=
  ⟨edge.source, edge.target, edge.isBackEdge⟩

namespace Consolidation

/-- The edges of a key, in order. -/
def group (edges : List Edge) (key : EdgeKey) : List Edge :=
  edges.filter (·.key = key)

/-- The edges of a group that count. While conditions are hidden, the branch taken when no
condition holds does not count beside other edges. -/
def counted (showConditions : Bool) (group : List Edge) : List Edge :=
  if showConditions then group
  else
    let specific := group.filter (·.label ≠ elseLabel)
    if specific.isEmpty then group else specific

/-- The number of transitions that edges stand for. -/
def total : List Edge → Nat
  | [] => 0
  | edge :: edges => edge.multiplicity + total edges

/-- The first label that says something. -/
def example? (edges : List Edge) : Option Text :=
  (edges.find? fun edge => edge.label ≠ [] && edge.label ≠ elseLabel).map Edge.label

/-- The feature flag that all edges of a group share. -/
def sharedFlag (first : Edge) (others : List Edge) : Option Text :=
  if others.all (·.featureFlag = first.featureFlag) then first.featureFlag else none

/-- Shortens a text to a length and marks that something is left out. -/
def truncate (limit : Int) (text : Text) : Text :=
  if limit < text.length then text.cut limit ++ "..." else text

/-- The label of an edge that stands for several. -/
def summaryLabel (options : ConsolidationOptions) (count : Nat) (edges : List Edge) : Text :=
  if options.boldThreshold ≤ count then s!"{count} paths"
  else
    match (if options.showConditions then example? edges else none) with
    | some text => s!"{count}× " ++ truncate options.exampleMaxLength text
    | none => s!"{count}×"

/-- The edge that stands for several edges of one key. -/
def merge (options : ConsolidationOptions) (first : Edge) (others : List Edge) : Edge :=
  { source := first.source
    target := first.target
    label := summaryLabel options (total (first :: others)) (first :: others)
    featureFlag := sharedFlag first others
    isFanOut := (first :: others).any (·.isFanOut)
    isBackEdge := first.isBackEdge
    multiplicity := total (first :: others)
    multiplicity_pos := by
      have := first.multiplicity_pos
      simp only [total]
      omega }

/-- The edges that are drawn for the counted edges of one group: themselves while they are few,
and one edge otherwise. -/
def block (options : ConsolidationOptions) : List Edge → List Edge
  | [] => []
  | [edge] => [edge]
  | first :: others =>
    if (total (first :: others) : Int) < options.summaryThreshold then first :: others
    else [merge options first others]

/-- The counted edges of every group, in the order of the first edges. The edges are put into groups
one after the other. -/
def blocks (options : ConsolidationOptions) (backEdges : List (Name × Name))
    (edges : List Edge) : List (List Edge) :=
  (groupsBy Edge.key (markBackEdges backEdges edges)).map fun entry =>
    counted options.showConditions entry.2

/-- There is a block for each distinct key, from the edges of this key alone. -/
theorem blocks_eq (options : ConsolidationOptions) (backEdges : List (Name × Name))
    (edges : List Edge) :
    blocks options backEdges edges =
      (distinct ((markBackEdges backEdges edges).map Edge.key)).map fun key =>
        counted options.showConditions (group (markBackEdges backEdges edges) key) := by
  rw [blocks, groupsBy_eq, List.map_map]
  rfl

/-- Whether the edges of a group are put together under a number that is too long to be written. -/
def isOverlong (options : ConsolidationOptions) : List Edge → Bool
  | first :: second :: others =>
    let count := total (first :: second :: others)
    decide (options.summaryThreshold ≤ count) && !Text.isWritable count
  | _ => false

end Consolidation

open Consolidation in
/-- Consolidates parallel edges, group by group in the order of their first edges. -/
def consolidate (options : ConsolidationOptions) (backEdges : List (Name × Name))
    (edges : List Edge) : List Edge :=
  (blocks options backEdges edges).flatMap (block options)

/-- Why edges cannot be consolidated: a number in a label would be too long. -/
inductive ConsolidationError
  | overlongCount
  deriving DecidableEq, Repr

/-- The wording of an error. -/
def ConsolidationError.message : ConsolidationError → String
  | .overlongCount =>
    s!"Exceeds the limit ({Text.maxDigits} digits) for integer string conversion; " ++
      "use sys.set_int_max_str_digits() to increase the limit"

open Consolidation in
/-- Consolidates edges that stand for any numbers of transitions. -/
def consolidateGiven (options : ConsolidationOptions) (backEdges : List (Name × Name))
    (edges : List Edge) : Except ConsolidationError (List Edge) :=
  if (blocks options backEdges edges).any (isOverlong options) then .error .overlongCount
  else .ok (consolidate options backEdges edges)

end FlowDiagram
