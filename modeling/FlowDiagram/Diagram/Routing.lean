import FlowDiagram.Text.Edit

/-!
# Edge routing

How edges are drawn: straight, curved or with right angles. A routing is chosen by name; Graphviz
has names of its own for the same thing, and they are accepted too.

## Main definitions

* `Routing`: the three ways to draw edges.
* `Routing.ofName`: the routing that a name stands for.
-/

namespace FlowDiagram

/-- How edges are drawn. -/
inductive Routing
  | straight
  | curved
  | orthogonal
  deriving DecidableEq, Repr

namespace Routing

/-- All routings, in order. -/
def all : List Routing := [.straight, .curved, .orthogonal]

/-- The name of a routing. -/
def name : Routing → String
  | .straight => "straight"
  | .curved => "curved"
  | .orthogonal => "ortho"

/-- The name that Graphviz has for a routing. -/
def splines : Routing → String
  | .straight => "polyline"
  | .curved => "spline"
  | .orthogonal => "ortho"

/-- The routing that a name stands for, whatever its case and the blanks around it. Unknown names
mean straight edges. -/
def ofName (name : Text) : Routing :=
  let word := Text.lowerAscii (Text.trim name)
  if word = "curved" || word = "spline" then .curved
  else if word = "ortho" || word = "orthogonal" then .orthogonal
  else .straight

end Routing

end FlowDiagram
