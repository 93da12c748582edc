import FlowDiagram.Fact.Basic

/-!
# Flow edges

The edges of a flow, from an activity to one that may follow it. The end of a flow is a node of
its own under a reserved name.

## Main definitions

* `Edge`: an edge, with the number of transitions it stands for.
* `endNode`: the node where a flow ends.
* `Edge.displayLabel`: the flag and the condition of an edge.
-/

namespace FlowDiagram

/-- The reserved name of the node where a flow ends. -/
def endNode : Name := "__END__"

/-- The label of a transition that is taken when no condition holds. -/
def elseLabel : Text := "else"

/-- The sign in front of a feature flag. -/
def flagGlyph : Text := "🚩"

/-- One edge of a flow. `multiplicity` is the number of transitions it stands for. -/
structure Edge where
  source : Name
  target : Name
  label : Text := []
  featureFlag : Option Text := none
  isFanOut : Bool := false
  isBackEdge : Bool := false
  multiplicity : Nat := 1
  multiplicity_pos : 0 < multiplicity := by decide
  deriving DecidableEq, Repr

namespace Edge

/-- The two ends of an edge. -/
def ends (edge : Edge) : Name × Name :=
  (edge.source, edge.target)

/-- The marker of a feature flag. -/
def flagMarker (flag : Text) : Text :=
  flagGlyph ++ " " ++ flag

/-- The label of an edge behind the marker of its feature flag. -/
def displayLabel (edge : Edge) : Text :=
  match edge.featureFlag with
  | none => edge.label
  | some flag =>
    if edge.label.isEmpty then flagMarker flag else flagMarker flag ++ ": " ++ edge.label

end Edge

end FlowDiagram
