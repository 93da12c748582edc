import FlowDiagram.Diagram.Options
import FlowDiagram.Graph.Edge

/-!
# Edge styles

What an edge says and how it is drawn. Back edges come before fan-outs, these before edges to
activities without a processor, and these before edges that stand for many transitions.

## Main definitions

* `visibleLabel`: the label that is shown on an edge.
* `StyledEdge.ofEdge`: an edge with its style.
-/

namespace FlowDiagram

/-- The label of an edge that starts several activities. -/
def fanOutLabel : Text := "multiple"

/-- The part of an edge's label that is about its condition and its feature flag. Numbers of
consolidated edges are always shown, conditions only on demand, flags always. -/
def conditionLabel (options : DrawingOptions) (edge : Edge) : Text :=
  if 1 < edge.multiplicity || options.showConditions then edge.displayLabel
  else
    match edge.featureFlag with
    | some flag => Edge.flagMarker flag
    | none => []

/-- The label that is shown on an edge. -/
def visibleLabel (options : DrawingOptions) (edge : Edge) : Text :=
  let label := conditionLabel options edge
  if edge.isFanOut && !edge.isBackEdge then
    if label.isEmpty then fanOutLabel else label ++ " (" ++ fanOutLabel ++ ")"
  else label

/-- How an edge is drawn, where it differs from other edges. -/
structure EdgeStyle where
  colour : Option String := none
  constraint : Option String := none
  penWidth : Option String := none
  style : Option String := none
  deriving DecidableEq, Repr

namespace EdgeStyle

/-- The colour of cycles. -/
def cycleColour : String := "#FF6B6B"

/-- The colour of fan-outs. -/
def fanOutColour : String := "#4CAF50"

/-- The style of an edge. A back edge does not take part in the layout. -/
def ofEdge (options : DrawingOptions) (missing : List Name) (edge : Edge) : EdgeStyle :=
  if edge.isBackEdge then
    { colour := some cycleColour, constraint := some "false", penWidth := some "2",
      style := some "bold" }
  else if edge.isFanOut then
    { colour := some fanOutColour, penWidth := some "2", style := some "bold" }
  else if missing.contains edge.target then { style := some "dashed" }
  else if options.boldThreshold ≤ edge.multiplicity then
    { penWidth := some "2", style := some "bold" }
  else {}

/-- The attributes that make up a style, by key. -/
def attributes (style : EdgeStyle) : List (String × String) :=
  [("color", style.colour), ("constraint", style.constraint), ("penwidth", style.penWidth),
    ("style", style.style)].filterMap fun (key, value) => value.map (key, ·)

end EdgeStyle

/-- An edge with its visible label and its style. -/
structure StyledEdge where
  source : Name
  target : Name
  label : Text
  style : EdgeStyle
  deriving DecidableEq, Repr

/-- An edge with its visible label and its style. -/
def StyledEdge.ofEdge (options : DrawingOptions) (missing : List Name) (edge : Edge) :
    StyledEdge :=
  { source := edge.source
    target := edge.target
    label := visibleLabel options edge
    style := EdgeStyle.ofEdge options missing edge }

end FlowDiagram
