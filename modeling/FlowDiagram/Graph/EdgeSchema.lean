import FlowDiagram.Graph.Edge
import FlowDiagram.Schema.Field

/-!
# Edges as JSON

## Main definitions

* `Edge.ofMembers`: the edge that an object states.
-/

namespace FlowDiagram.Edge

open Schema

/-- Reads a count of at least one. -/
def positive (json : Json) : Checked { n : Nat // 0 < n } :=
  (integer json).andThen fun n =>
    if h : 0 < n.toNat then .valid ⟨n.toNat, h⟩ else .fail (.belowMinimum 1)

/-- Reads an edge from the members of its object; only its ends have to be there. -/
def ofMembers (members : List (Text × Json)) : Checked Edge :=
  (Checked.both (required (.plain "source") text members)
    (Checked.both (required (.plain "target") text members)
      (Checked.both (optional (.plain "label") [] text members)
        (Checked.both (optional (.plain "feature_flag") none nullableText members)
          (Checked.both (optional (.plain "is_fan_out") false boolean members)
            (Checked.both (optional (.plain "is_back_edge") false boolean members)
              (optional (.plain "multiplicity") ⟨1, Nat.one_pos⟩ positive members))))))).map
    fun (source, target, label, featureFlag, isFanOut, isBackEdge, multiplicity) =>
      { source, target, label, featureFlag, isFanOut, isBackEdge,
        multiplicity := multiplicity.val, multiplicity_pos := multiplicity.property }

end FlowDiagram.Edge
