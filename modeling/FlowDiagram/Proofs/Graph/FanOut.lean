import FlowDiagram.Proofs.Graph.Blocks

/-!
# Fan-outs under consolidation

A transition that starts several activities gives an edge to each of them, and such an edge may be
parallel to others of any kind. Consolidation keeps what it says: between two nodes a fan-out is
left exactly if there was one. It could only be lost with the branch that is taken when no
condition holds, if its label reads like that of this branch.

## Main definitions

* `FansOut`: some edge between two nodes is a fan-out.
* `FanOutsNamed`: no fan-out is labelled like the branch that is taken when no condition holds.

`fansOut_consolidate` is the main result.
-/

namespace FlowDiagram

/-- Some edge between two nodes is a fan-out. -/
def FansOut (edges : List Edge) (source target : Name) : Prop :=
  ∃ edge ∈ edges, edge.ends = (source, target) ∧ edge.isFanOut = true

/-- No fan-out is labelled like the branch that is taken when no condition holds. -/
def FanOutsNamed (edges : List Edge) : Prop :=
  ∀ edge ∈ edges, edge.isFanOut = true → edge.label ≠ elseLabel

theorem FanOutsNamed.subset {edges others : List Edge} (h : FanOutsNamed edges)
    (hsubset : others ⊆ edges) : FanOutsNamed others :=
  fun edge hedge => h edge (hsubset hedge)

/-! ## Marks of back edges -/

section Marks

variable (backEdges : List (Name × Name)) {edges : List Edge}

/-- A marked edge differs from the edge it was in its mark only. -/
theorem exists_of_mem_markBackEdges {marked : Edge} (h : marked ∈ markBackEdges backEdges edges) :
    ∃ edge ∈ edges, edge.ends = marked.ends ∧ edge.label = marked.label ∧
      edge.isFanOut = marked.isFanOut := by
  obtain ⟨edge, hedge, rfl⟩ := List.mem_map.mp h
  refine ⟨edge, hedge, ?_⟩
  split <;> exact ⟨rfl, rfl, rfl⟩

theorem exists_mem_markBackEdges {edge : Edge} (h : edge ∈ edges) :
    ∃ marked ∈ markBackEdges backEdges edges, marked.ends = edge.ends ∧
      marked.isFanOut = edge.isFanOut := by
  refine ⟨_, List.mem_map_of_mem h, ?_⟩
  split <;> exact ⟨rfl, rfl⟩

theorem fansOut_markBackEdges (edges : List Edge) (source target : Name) :
    FansOut (markBackEdges backEdges edges) source target ↔ FansOut edges source target := by
  constructor
  · rintro ⟨marked, hmarked, hends, hfan⟩
    obtain ⟨edge, hedge, hends', -, hfan'⟩ := exists_of_mem_markBackEdges backEdges hmarked
    exact ⟨edge, hedge, hends'.trans hends, hfan'.trans hfan⟩
  · rintro ⟨edge, hedge, hends, hfan⟩
    obtain ⟨marked, hmarked, hends', hfan'⟩ := exists_mem_markBackEdges backEdges hedge
    exact ⟨marked, hmarked, hends'.trans hends, hfan'.trans hfan⟩

theorem FanOutsNamed.markBackEdges (h : FanOutsNamed edges) :
    FanOutsNamed (markBackEdges backEdges edges) := by
  intro marked hmarked hfan
  obtain ⟨edge, hedge, -, hlabel, hfan'⟩ := exists_of_mem_markBackEdges backEdges hmarked
  rw [← hlabel]
  exact h edge hedge (hfan'.trans hfan)

end Marks

/-! ## One key -/

namespace Consolidation

variable {options : ConsolidationOptions} {edges : List Edge} {key : EdgeKey}

/-- What is drawn for some edges has a fan-out if they have one. -/
theorem DrawnFor.exists_isFanOut_iff {drawn : List Edge} (h : DrawnFor options key edges drawn) :
    (∃ edge ∈ drawn, edge.isFanOut = true) ↔ ∃ edge ∈ edges, edge.isFanOut = true := by
  by_cases hfew : edges.length = 1 ∨ (total edges : Int) < options.summaryThreshold
  · rw [h.kept hfew]
  · obtain ⟨one, rfl, hone, -⟩ := h.merged hfew
    rw [← hone]
    simp only [List.mem_singleton, exists_eq_left]

/-- A fan-out counts, whatever else there is. -/
theorem mem_counted_of_isFanOut (h : FanOutsNamed edges) (showConditions : Bool) {edge : Edge}
    (hedge : edge ∈ edges) (hfan : edge.isFanOut = true) : edge ∈ counted showConditions edges := by
  rw [counted_eq_ite]
  split
  · exact List.mem_filter.mpr ⟨hedge, decide_eq_true (h edge hedge hfan)⟩
  · exact hedge

theorem exists_isFanOut_counted_iff (h : FanOutsNamed edges) (showConditions : Bool) :
    (∃ edge ∈ counted showConditions edges, edge.isFanOut = true) ↔
      ∃ edge ∈ edges, edge.isFanOut = true := by
  constructor
  · rintro ⟨edge, hedge, hfan⟩
    exact ⟨edge, counted_subset _ _ hedge, hfan⟩
  · rintro ⟨edge, hedge, hfan⟩
    exact ⟨edge, mem_counted_of_isFanOut h showConditions hedge hfan, hfan⟩

/-- The block of a key shows the edges of this key that count. -/
theorem drawnFor_group {edge : Edge} (h : edge ∈ edges) :
    DrawnFor options edge.key (counted options.showConditions (group edges edge.key))
      (block options (counted options.showConditions (group edges edge.key))) :=
  drawnFor_block (counted_ne_nil _ (group_ne_nil h))
    fun _ hcounted => key_of_mem_group (counted_subset _ _ hcounted)

/-- The block of a key has a fan-out if some edge of this key is one. -/
theorem exists_isFanOut_block_iff (hnamed : FanOutsNamed edges) {edge : Edge} (h : edge ∈ edges) :
    (∃ drawn ∈ block options (counted options.showConditions (group edges edge.key)),
        drawn.isFanOut = true) ↔
      ∃ other ∈ edges, other.key = edge.key ∧ other.isFanOut = true := by
  have hgroup : FanOutsNamed (group edges edge.key) := hnamed.subset List.filter_sublist.subset
  rw [(drawnFor_group h).exists_isFanOut_iff, exists_isFanOut_counted_iff hgroup]
  simp only [group, List.mem_filter, decide_eq_true_eq, and_assoc]

end Consolidation

/-! ## All edges -/

open Consolidation in
/-- Consolidated edges of a key have a fan-out if some edge of this key is one. -/
theorem isFanOut_of_mem_consolidate {options : ConsolidationOptions}
    {backEdges : List (Name × Name)} {edges : List Edge} (hnamed : FanOutsNamed edges)
    (key : EdgeKey) :
    (∃ drawn ∈ consolidate options backEdges edges, drawn.key = key ∧ drawn.isFanOut = true) ↔
      ∃ edge ∈ markBackEdges backEdges edges, edge.key = key ∧ edge.isFanOut = true := by
  have hmarked := hnamed.markBackEdges backEdges
  simp only [consolidate, blocks_eq, List.mem_flatMap, List.mem_map, mem_distinct]
  constructor
  · rintro ⟨drawn, ⟨_, ⟨_, ⟨edge, hedge, rfl⟩, rfl⟩, hdrawn⟩, rfl, hfan⟩
    rw [(drawnFor_group hedge).key_eq drawn hdrawn]
    exact (exists_isFanOut_block_iff hmarked hedge).mp ⟨drawn, hdrawn, hfan⟩
  · rintro ⟨edge, hedge, rfl, hfan⟩
    obtain ⟨drawn, hdrawn, hfan⟩ :=
      (exists_isFanOut_block_iff hmarked hedge).mpr ⟨edge, hedge, rfl, hfan⟩
    exact ⟨drawn, ⟨_, ⟨_, ⟨edge, hedge, rfl⟩, rfl⟩, hdrawn⟩,
      (drawnFor_group hedge).key_eq drawn hdrawn, hfan⟩

/-- Consolidation leaves a fan-out between two nodes exactly if there is one. -/
theorem fansOut_consolidate {edges : List Edge} (hnamed : FanOutsNamed edges)
    (options : ConsolidationOptions) (backEdges : List (Name × Name)) (source target : Name) :
    FansOut (consolidate options backEdges edges) source target ↔ FansOut edges source target := by
  rw [← fansOut_markBackEdges backEdges edges]
  constructor
  · rintro ⟨drawn, hdrawn, hends, hfan⟩
    obtain ⟨edge, hedge, hkey, hfan⟩ :=
      (isFanOut_of_mem_consolidate hnamed drawn.key).mp ⟨drawn, hdrawn, rfl, hfan⟩
    exact ⟨edge, hedge, (ends_of_key_eq hkey).trans hends, hfan⟩
  · rintro ⟨edge, hedge, hends, hfan⟩
    obtain ⟨drawn, hdrawn, hkey, hfan⟩ :=
      (isFanOut_of_mem_consolidate hnamed edge.key).mpr ⟨edge, hedge, rfl, hfan⟩
    exact ⟨drawn, hdrawn, (ends_of_key_eq hkey).trans hends, hfan⟩

end FlowDiagram
