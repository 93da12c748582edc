/-!
# Ranges of code points

A Unicode property is kept as a list of inclusive ranges; a code point has the property when one
of the ranges holds it.

## Main definitions

* `inRanges`: whether some range holds a code point.
-/

namespace FlowDiagram.Text

/-- Whether one of the inclusive ranges holds the code point. -/
def inRanges (ranges : List (Nat × Nat)) (point : Nat) : Bool :=
  ranges.any fun range => decide (range.1 ≤ point ∧ point ≤ range.2)

end FlowDiagram.Text
