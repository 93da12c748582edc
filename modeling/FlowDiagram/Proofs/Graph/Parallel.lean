import FlowDiagram.Proofs.Graph.Blocks
import FlowDiagram.Proofs.Graph.Walk

/-!
# Parallel edges

All edges between two nodes have one direction, since the two names are the ends of a back edge or
are not. So what is drawn between two nodes is settled by the edges between them and by nothing
else: they are marked, those that count are picked, and these are drawn as one block.

A feature flag is drawn if an edge that counts has it, unless these edges are put together and some
of them do not have it.

## Main definitions

* `between`: the edges between two nodes.
* `Consolidation.KeepsFlag`: a flag is not lost when edges of one key are consolidated.

`between_consolidate` says what consolidation draws between two nodes, and `Walk.between_along` what
a walk finds there.
-/

namespace FlowDiagram

/-- The edges between two nodes, in order. -/
def between (edges : List Edge) (source target : Name) : List Edge :=
  edges.filter (·.ends = (source, target))

theorem mem_between {edges : List Edge} {source target : Name} {edge : Edge} :
    edge ∈ between edges source target ↔ edge ∈ edges ∧ edge.ends = (source, target) := by
  rw [between, List.mem_filter, decide_eq_true_eq]

theorem key_eq_iff {edge : Edge} {source target : Name} {isBackEdge : Bool} :
    edge.key = ⟨source, target, isBackEdge⟩ ↔
      edge.ends = (source, target) ∧ edge.isBackEdge = isBackEdge := by
  simp only [Edge.key, Edge.ends, EdgeKey.mk.injEq, Prod.mk.injEq, and_assoc]

/-- Edges of one direction between two nodes are the edges of one key. -/
theorem between_eq_group {edges : List Edge} {source target : Name} {isBackEdge : Bool}
    (h : ∀ edge ∈ edges, edge.ends = (source, target) → edge.isBackEdge = isBackEdge) :
    between edges source target = Consolidation.group edges ⟨source, target, isBackEdge⟩ := by
  refine List.filter_congr fun edge hedge => decide_eq_decide.mpr ?_
  rw [key_eq_iff]
  exact ⟨fun hends => ⟨hends, h edge hedge hends⟩, And.left⟩

/-- A walk finds between a visited activity and another node what the processor of the activity
declares. -/
theorem Walk.between_along {index : FactIndex} (hkeyed : index.Keyed) (options : DrawingOptions)
    (entry : Name) {source : Name} (h : source ∈ (along index options entry).visited)
    (target : Name) :
    between (along index options entry).edges source target =
      (outgoing index options source).filter (·.target = target) := by
  rw [← filter_source_along options entry hkeyed h, List.filter_filter, between]
  refine List.filter_congr fun edge _ => ?_
  simp [Edge.ends, Bool.and_comm]

/-! ## Drawn edges -/

open Consolidation in
/-- What consolidation draws for a key is the block of the edges of this key, if there are any. -/
theorem group_consolidate (options : ConsolidationOptions) (backEdges : List (Name × Name))
    (edges : List Edge) (key : EdgeKey) :
    group (consolidate options backEdges edges) key =
      block options (counted options.showConditions (group (markBackEdges backEdges edges) key)) := by
  let marked := markBackEdges backEdges edges
  by_cases hmem : key ∈ distinct (marked.map Edge.key)
  · rw [consolidate, blocks_eq, List.flatMap_map]
    exact group_flatMap (nodup_distinct _) (key_of_mem_block_counted options marked) hmem
  · have hnone : ∀ edge ∈ marked, edge.key ≠ key := fun edge hedge heq =>
      hmem (mem_distinct.mpr (List.mem_map.mpr ⟨edge, hedge, heq⟩))
    have hmarked : group marked key = [] :=
      List.filter_eq_nil_iff.mpr fun edge hedge => by simpa using hnone edge hedge
    have hdrawn : group (consolidate options backEdges edges) key = [] := by
      refine List.filter_eq_nil_iff.mpr fun drawn hdrawn hdec => ?_
      obtain ⟨edge, hedge, hkey⟩ := (key_of_mem_consolidate ..).mp ⟨drawn, hdrawn, rfl⟩
      exact hnone edge hedge (hkey.trans (of_decide_eq_true hdec))
    rw [hdrawn, hmarked]
    cases options.showConditions <;> rfl

/-- An edge with its mark set or taken away. -/
def Edge.directed (isBackEdge : Bool) (edge : Edge) : Edge :=
  { edge with isBackEdge }

section Drawn

variable {edges : List Edge} (hplain : ∀ edge ∈ edges, edge.isBackEdge = false)
  (backEdges : List (Name × Name)) (source target : Name)

include hplain

/-- The edges between two nodes are all marked, or none of them is. -/
theorem between_markBackEdges :
    between (markBackEdges backEdges edges) source target =
      (between edges source target).map
        (Edge.directed (decide ((source, target) ∈ backEdges))) := by
  have hends : ∀ edge : Edge, (if backEdges.contains edge.ends then
      { edge with isBackEdge := true } else edge).ends = edge.ends := by
    intro edge
    split <;> rfl
  rw [between, markBackEdges, List.filter_map]
  simp only [Function.comp_def, hends]
  refine List.map_congr_left fun edge hedge => ?_
  obtain ⟨hedge, hbetween⟩ := mem_between.mp hedge
  have hself : Edge.directed false edge = edge := by
    rw [← hplain edge hedge]
    rfl
  rw [hbetween]
  by_cases hback : (source, target) ∈ backEdges
  · simp [hback, Edge.directed]
  · simp [hback, hself]

/-- What consolidation draws between two nodes is the block of the edges between them. -/
theorem between_consolidate (options : ConsolidationOptions) :
    between (consolidate options backEdges edges) source target =
      Consolidation.block options (Consolidation.counted options.showConditions
        (between (markBackEdges backEdges edges) source target)) := by
  have hmarked : ∀ edge ∈ markBackEdges backEdges edges, edge.ends = (source, target) →
      edge.isBackEdge = decide ((source, target) ∈ backEdges) := by
    intro edge hedge hends
    rw [Bool.eq_iff_iff, decide_eq_true_iff, ← hends]
    exact isBackEdge_iff_of_mem_markBackEdges hplain hedge
  have hdrawn : ∀ drawn ∈ consolidate options backEdges edges, drawn.ends = (source, target) →
      drawn.isBackEdge = decide ((source, target) ∈ backEdges) := by
    intro drawn hdrawn hends
    obtain ⟨edge, hedge, hkey⟩ := (key_of_mem_consolidate ..).mp ⟨drawn, hdrawn, rfl⟩
    have hback : edge.isBackEdge = drawn.isBackEdge := congrArg EdgeKey.isBackEdge hkey
    rw [← hback]
    exact hmarked edge hedge ((ends_of_key_eq hkey).trans hends)
  rw [between_eq_group hmarked, between_eq_group hdrawn, group_consolidate]

end Drawn

/-! ## Feature flags -/

namespace Consolidation

variable {options : ConsolidationOptions} {edges : List Edge} {flag : Text}

/-- A flag is not lost when edges of one key are consolidated: an edge that counts has it, and the
edges that count are too few to be put together, or all of them have it. -/
def KeepsFlag (options : ConsolidationOptions) (edges : List Edge) (flag : Text) : Prop :=
  let counts := counted options.showConditions edges
  (∃ edge ∈ counts, edge.featureFlag = some flag) ∧
    ((total counts : Int) < options.summaryThreshold ∨
      ∀ edge ∈ counts, edge.featureFlag = some flag)

/-- A block has a flag if one of its edges has it, unless they are put together and another one does
not have it. -/
theorem exists_featureFlag_block_iff (options : ConsolidationOptions) (edges : List Edge)
    (flag : Text) :
    (∃ drawn ∈ block options edges, drawn.featureFlag = some flag) ↔
      (∃ edge ∈ edges, edge.featureFlag = some flag) ∧
        ((total edges : Int) < options.summaryThreshold ∨
          ∀ edge ∈ edges, edge.featureFlag = some flag) := by
  match edges with
  | [] => simp [block]
  | [edge] => simp +contextual [block]
  | first :: second :: others =>
    simp only [block]
    split
    · rename_i hfew
      exact (and_iff_left (Or.inl hfew)).symm
    · rename_i hmany
      rw [or_iff_right hmany]
      simp only [List.mem_singleton, exists_eq_left]
      refine (sharedFlag_eq_some_iff first (second :: others) flag).trans ?_
      exact (and_iff_right_of_imp fun hall => ⟨first, List.mem_cons_self,
        hall first List.mem_cons_self⟩).symm

/-- Marks do not matter for flags. -/
theorem keepsFlag_map_directed (options : ConsolidationOptions) (isBackEdge : Bool)
    (edges : List Edge) (flag : Text) :
    KeepsFlag options (edges.map (Edge.directed isBackEdge)) flag ↔
      KeepsFlag options edges flag := by
  have hcounted : counted options.showConditions (edges.map (Edge.directed isBackEdge)) =
      (counted options.showConditions edges).map (Edge.directed isBackEdge) :=
    counted_map (f := Edge.directed isBackEdge) (fun _ => Iff.rfl) _ _
  have htotal := total_map (f := Edge.directed isBackEdge) (fun _ => rfl)
    (counted options.showConditions edges)
  simp only [KeepsFlag, hcounted, htotal, List.mem_map, exists_exists_and_eq_and,
    forall_exists_index, and_imp, forall_apply_eq_imp_iff₂, Edge.directed]

end Consolidation

end FlowDiagram
