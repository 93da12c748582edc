import FlowDiagram.Diagram.EdgeStyle
import FlowDiagram.Flow.Generation
import FlowDiagram.Proofs.Graph.Consolidation

/-!
# Edges without their conditions

While conditions are hidden, the text of a condition is read in one place only: an edge may be the
branch that is taken when no condition holds. Everything that is found out about a flow is the same
for edges that keep no more of their conditions than this. The number of an edge that stands for
several transitions is no condition, and it stays.

## Main definitions

* `Edge.withoutCondition`: an edge that keeps of its condition only whether it is the other branch.

`consolidate_map_withoutCondition` says that conditions may be taken away before consolidation or
after it, and `StyledEdge.ofEdge_withoutCondition` that nobody sees whether they were.
-/

namespace FlowDiagram

/-! ## One edge -/

/-- What is left of a label while conditions are hidden: whether it marks the other branch. -/
def hideCondition (label : Text) : Text :=
  if label = elseLabel then elseLabel else []

theorem hideCondition_eq_else_iff {label : Text} :
    hideCondition label = elseLabel ↔ label = elseLabel := by
  rw [hideCondition]
  split
  · rename_i helse
    exact iff_of_true rfl helse
  · rename_i helse
    exact iff_of_false (by decide) helse

theorem hideCondition_congr {label other : Text} (h : label = elseLabel ↔ other = elseLabel) :
    hideCondition label = hideCondition other := by
  rw [hideCondition, hideCondition]
  exact ite_cond_congr (propext h)

namespace Edge

/-- An edge that keeps of its condition only whether it is the other branch. -/
def withoutCondition (edge : Edge) : Edge :=
  if edge.multiplicity = 1 then { edge with label := hideCondition edge.label } else edge

variable (edge : Edge)

/-- Nothing but the label changes. -/
theorem withoutCondition_eq :
    edge.withoutCondition = { edge with label := edge.withoutCondition.label } := by
  rw [withoutCondition]
  split <;> rfl

@[simp] theorem key_withoutCondition : edge.withoutCondition.key = edge.key := by
  rw [withoutCondition_eq]
  rfl

@[simp] theorem ends_withoutCondition : edge.withoutCondition.ends = edge.ends := by
  rw [withoutCondition_eq]
  rfl

@[simp] theorem target_withoutCondition : edge.withoutCondition.target = edge.target := by
  rw [withoutCondition_eq]

@[simp] theorem featureFlag_withoutCondition :
    edge.withoutCondition.featureFlag = edge.featureFlag := by
  rw [withoutCondition_eq]

@[simp] theorem isFanOut_withoutCondition : edge.withoutCondition.isFanOut = edge.isFanOut := by
  rw [withoutCondition_eq]

@[simp] theorem multiplicity_withoutCondition :
    edge.withoutCondition.multiplicity = edge.multiplicity := by
  rw [withoutCondition_eq]

@[simp] theorem label_withoutCondition_eq_else_iff :
    edge.withoutCondition.label = elseLabel ↔ edge.label = elseLabel := by
  rw [withoutCondition]
  split
  · exact hideCondition_eq_else_iff
  · rfl

/-- The edge of a merged group has no condition to lose. -/
theorem withoutCondition_of_one_lt {edge : Edge} (h : 1 < edge.multiplicity) :
    edge.withoutCondition = edge := by
  rw [withoutCondition, if_neg (by omega)]

end Edge

/-! ## Consolidation -/

namespace Consolidation

variable {options : ConsolidationOptions}

theorem group_map_withoutCondition (edges : List Edge) (key : EdgeKey) :
    group (edges.map Edge.withoutCondition) key = (group edges key).map Edge.withoutCondition := by
  simp only [group, List.filter_map, Function.comp_def, Edge.key_withoutCondition]

theorem counted_map_withoutCondition (edges : List Edge) :
    counted false (edges.map Edge.withoutCondition) =
      (counted false edges).map Edge.withoutCondition :=
  counted_map Edge.label_withoutCondition_eq_else_iff false edges

theorem total_map_withoutCondition (edges : List Edge) :
    total (edges.map Edge.withoutCondition) = total edges :=
  total_map Edge.multiplicity_withoutCondition edges

theorem sharedFlag_map_withoutCondition (first : Edge) (others : List Edge) :
    sharedFlag first.withoutCondition (others.map Edge.withoutCondition) =
      sharedFlag first others := by
  simp only [sharedFlag, List.all_map, Function.comp_def, Edge.featureFlag_withoutCondition]

/-- Two edges and more stand for at least two transitions. -/
theorem one_lt_total (first second : Edge) (others : List Edge) :
    1 < total (first :: second :: others) := by
  have hfirst := first.multiplicity_pos
  have hsecond := second.multiplicity_pos
  simp only [total]
  omega

/-- A merged edge is the same, whether its conditions are taken away before or not at all. -/
theorem merge_map_withoutCondition (hhidden : options.showConditions = false)
    (first : Edge) (others : List Edge) :
    merge options first.withoutCondition (others.map Edge.withoutCondition) =
      merge options first others := by
  obtain ⟨hsource, htarget, hback⟩ := EdgeKey.mk.inj first.key_withoutCondition
  have htotal := total_map_withoutCondition (first :: others)
  rw [List.map_cons] at htotal
  have hlabel : summaryLabel options (total (first :: others))
      (first.withoutCondition :: others.map Edge.withoutCondition) =
        summaryLabel options (total (first :: others)) (first :: others) :=
    summaryLabel_of_hidden hhidden _ _ _
  have hfanOut : (first.withoutCondition :: others.map Edge.withoutCondition).any (·.isFanOut) =
      (first :: others).any (·.isFanOut) := by
    simp [Function.comp_def]
  simp only [merge, Edge.mk.injEq, htotal, hlabel, hfanOut, sharedFlag_map_withoutCondition,
    and_true, true_and]
  exact ⟨hsource, htarget, hback⟩

/-- What is drawn for a group may lose its conditions before or after it is put together. -/
theorem block_map_withoutCondition (hhidden : options.showConditions = false)
    (edges : List Edge) :
    block options (edges.map Edge.withoutCondition) =
      (block options edges).map Edge.withoutCondition := by
  match edges with
  | [] => rfl
  | [edge] => rfl
  | first :: second :: others =>
    have htotal := total_map_withoutCondition (first :: second :: others)
    simp only [List.map_cons] at htotal
    simp only [List.map_cons, block, htotal]
    split
    · rfl
    · -- The merged edge stands for more than one transition, so its label is a number and stays.
      have hmerged : (merge options first (second :: others)).withoutCondition =
          merge options first (second :: others) :=
        Edge.withoutCondition_of_one_lt (one_lt_total first second others)
      rw [List.map_singleton, hmerged, ← List.map_cons, merge_map_withoutCondition hhidden]

end Consolidation

/-! ## All edges -/

theorem markBackEdges_map_withoutCondition (backEdges : List (Name × Name)) (edges : List Edge) :
    markBackEdges backEdges (edges.map Edge.withoutCondition) =
      (markBackEdges backEdges edges).map Edge.withoutCondition := by
  rw [markBackEdges, markBackEdges, List.map_map, List.map_map]
  refine List.map_congr_left fun edge _ => ?_
  simp only [Function.comp_apply, Edge.ends_withoutCondition]
  split
  · simp only [Edge.withoutCondition]
    split <;> rfl
  · rfl

open Consolidation in
/-- While conditions are hidden, they may be taken away before consolidation or after it. -/
theorem consolidate_map_withoutCondition {options : ConsolidationOptions}
    (hhidden : options.showConditions = false) (backEdges : List (Name × Name))
    (edges : List Edge) :
    consolidate options backEdges (edges.map Edge.withoutCondition) =
      (consolidate options backEdges edges).map Edge.withoutCondition := by
  have hkeys : ∀ edges : List Edge,
      (edges.map Edge.withoutCondition).map Edge.key = edges.map Edge.key := by
    intro edges
    rw [List.map_map]
    exact List.map_congr_left fun edge _ => edge.key_withoutCondition
  simp only [consolidate, blocks_eq, markBackEdges_map_withoutCondition, hkeys, hhidden,
    group_map_withoutCondition, counted_map_withoutCondition, List.flatMap_map,
    block_map_withoutCondition hhidden, List.map_flatMap]

theorem drawnEdges_map_withoutCondition {options : DrawingOptions}
    (hhidden : options.showConditions = false) (backEdges : List (Name × Name))
    (edges : List Edge) :
    drawnEdges options backEdges (edges.map Edge.withoutCondition) =
      (drawnEdges options backEdges edges).map Edge.withoutCondition := by
  unfold drawnEdges
  split
  · exact consolidate_map_withoutCondition hhidden backEdges edges
  · exact markBackEdges_map_withoutCondition backEdges edges

/-! ## What is seen of an edge -/

/-- While conditions are hidden, an edge says the same and looks the same without its condition. -/
theorem StyledEdge.ofEdge_withoutCondition {options : DrawingOptions}
    (hhidden : options.showConditions = false) (missing : List Name) (edge : Edge) :
    ofEdge options missing edge.withoutCondition = ofEdge options missing edge := by
  by_cases hsingle : edge.multiplicity = 1
  · have hlabel : ∀ label : Text, conditionLabel options { edge with label } =
        conditionLabel options edge := by
      intro label
      simp only [conditionLabel, hsingle, hhidden, Nat.lt_irrefl, decide_false, Bool.false_or]
      rfl
    rw [Edge.withoutCondition, if_pos hsingle, ofEdge, ofEdge, visibleLabel, visibleLabel, hlabel]
    rfl
  · rw [Edge.withoutCondition, if_neg hsingle]

end FlowDiagram
