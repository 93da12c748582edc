import FlowDiagram.Graph.Consolidation
import FlowDiagram.Proofs.Graph.Arrows

/-!
# Consolidation keeps the arrows

Marking back edges changes no end of an edge. Consolidation puts edges together only if they have
one key, and leaves at least one edge of every key, so the arrows of a flow stay what they are.

`arrow_consolidate` says so.
-/

namespace FlowDiagram

theorem ends_markBackEdges (backEdges : List (Name × Name)) (edges : List Edge) :
    (markBackEdges backEdges edges).map Edge.ends = edges.map Edge.ends := by
  rw [markBackEdges, List.map_map]
  refine List.map_congr_left fun edge _ => ?_
  rw [Function.comp_apply]
  split <;> rfl

theorem arrow_markBackEdges (backEdges : List (Name × Name)) (edges : List Edge) (v w : Name) :
    Arrow (markBackEdges backEdges edges) v w ↔ Arrow edges v w := by
  rw [Arrow, ends_markBackEdges, Arrow]

/-- Between the ends of a back edge every edge is marked. -/
theorem isBackEdge_of_mem_markBackEdges {backEdges : List (Name × Name)} {edges : List Edge}
    {edge : Edge} (h : edge ∈ markBackEdges backEdges edges) (hback : edge.ends ∈ backEdges) :
    edge.isBackEdge = true := by
  obtain ⟨raw, -, rfl⟩ := List.mem_map.mp h
  by_cases hraw : raw.ends ∈ backEdges
  · simp [hraw]
  · simp [hraw] at hback

/-- Of edges without marks exactly those between the ends of back edges are marked. -/
theorem isBackEdge_iff_of_mem_markBackEdges {backEdges : List (Name × Name)} {edges : List Edge}
    (hplain : ∀ edge ∈ edges, edge.isBackEdge = false) {edge : Edge}
    (h : edge ∈ markBackEdges backEdges edges) :
    edge.isBackEdge = true ↔ edge.ends ∈ backEdges := by
  refine ⟨fun hback => ?_, isBackEdge_of_mem_markBackEdges h⟩
  obtain ⟨raw, hraw, rfl⟩ := List.mem_map.mp h
  by_cases hmem : raw.ends ∈ backEdges
  · rw [if_pos (by simpa using hmem)]
    exact hmem
  · simp [hmem, hplain raw hraw] at hback

theorem ends_of_key_eq {a b : Edge} (h : a.key = b.key) : a.ends = b.ends := by
  rw [Edge.key, Edge.key, EdgeKey.mk.injEq] at h
  exact Prod.ext h.1 h.2.1

namespace Consolidation

variable {options : ConsolidationOptions} {edges : List Edge} {key : EdgeKey}

/-- While conditions are hidden, the other branch counts only where nothing else does. -/
theorem counted_hidden (edges : List Edge) :
    counted false edges =
      if (edges.filter (·.label ≠ elseLabel)).isEmpty then edges
      else edges.filter (·.label ≠ elseLabel) :=
  rfl

theorem counted_subset (showConditions : Bool) (edges : List Edge) :
    counted showConditions edges ⊆ edges := by
  unfold counted
  split
  · exact List.Subset.refl _
  · dsimp only
    split
    · exact List.Subset.refl _
    · exact List.filter_sublist.subset

theorem counted_ne_nil (showConditions : Bool) (hne : edges ≠ []) :
    counted showConditions edges ≠ [] := by
  unfold counted
  split
  · exact hne
  · dsimp only
    split
    · exact hne
    · rename_i h
      simpa using h

/-- What counts is a matter of which edges are the other branch. -/
theorem counted_map {f : Edge → Edge}
    (hf : ∀ edge, (f edge).label = elseLabel ↔ edge.label = elseLabel) (showConditions : Bool)
    (edges : List Edge) :
    counted showConditions (edges.map f) = (counted showConditions edges).map f := by
  have hspecific : (edges.map f).filter (·.label ≠ elseLabel) =
      (edges.filter (·.label ≠ elseLabel)).map f := by
    simp [List.filter_map, Function.comp_def, hf]
  cases showConditions with
  | true => rfl
  | false =>
    rw [counted_hidden, counted_hidden, hspecific, List.isEmpty_map]
    split <;> rfl

theorem total_map {f : Edge → Edge} (hf : ∀ edge, (f edge).multiplicity = edge.multiplicity)
    (edges : List Edge) : total (edges.map f) = total edges := by
  induction edges with
  | nil => rfl
  | cons edge edges ih => rw [List.map_cons, total, total, ih, hf]

/-- Merged edges show their number and nothing of the conditions. -/
theorem summaryLabel_of_hidden (hhidden : options.showConditions = false) (count : Nat)
    (edges others : List Edge) :
    summaryLabel options count edges = summaryLabel options count others := by
  rw [summaryLabel, summaryLabel, hhidden]
  rfl

/-- The edges that are drawn for some edges of one key have its ends. -/
theorem key_of_mem_block (hkey : ∀ edge ∈ edges, edge.key = key) {drawn : Edge}
    (hdrawn : drawn ∈ block options edges) : drawn.key = key := by
  match edges, hkey, hdrawn with
  | [], _, hdrawn => exact absurd hdrawn List.not_mem_nil
  | [edge], hkey, hdrawn => exact hkey drawn hdrawn
  | first :: second :: others, hkey, hdrawn =>
    simp only [block] at hdrawn
    split at hdrawn
    · exact hkey drawn hdrawn
    · rw [List.mem_singleton.mp hdrawn]
      exact hkey first List.mem_cons_self

theorem block_ne_nil (options : ConsolidationOptions) (hne : edges ≠ []) :
    block options edges ≠ [] := by
  match edges, hne with
  | [], hne => exact absurd rfl hne
  | [edge], _ => exact List.cons_ne_nil _ _
  | first :: second :: others, _ =>
    simp only [block]
    split <;> exact List.cons_ne_nil _ _

theorem group_ne_nil {edge : Edge} (h : edge ∈ edges) : group edges edge.key ≠ [] :=
  List.ne_nil_of_mem (List.mem_filter.mpr ⟨h, decide_eq_true rfl⟩)

theorem key_of_mem_group {edge : Edge} (h : edge ∈ group edges key) : edge.key = key :=
  of_decide_eq_true (List.mem_filter.mp h).2

end Consolidation

open Consolidation in
/-- Consolidated edges have the keys of the edges they stand for. -/
theorem key_of_mem_consolidate (options : ConsolidationOptions) (backEdges : List (Name × Name))
    (edges : List Edge) (key : EdgeKey) :
    (∃ drawn ∈ consolidate options backEdges edges, drawn.key = key) ↔
      ∃ edge ∈ markBackEdges backEdges edges, edge.key = key := by
  simp only [consolidate, blocks_eq, List.mem_flatMap, List.mem_map, mem_distinct]
  constructor
  · rintro ⟨drawn, ⟨_, ⟨_, ⟨edge, hedge, rfl⟩, rfl⟩, hdrawn⟩, rfl⟩
    refine ⟨edge, hedge, (key_of_mem_block (fun e he => ?_) hdrawn).symm⟩
    exact key_of_mem_group (counted_subset _ _ he)
  · rintro ⟨edge, hedge, rfl⟩
    have hcounted := counted_ne_nil options.showConditions (group_ne_nil hedge)
    obtain ⟨drawn, hdrawn⟩ := List.exists_mem_of_ne_nil _ (block_ne_nil options hcounted)
    refine ⟨drawn, ⟨_, ⟨_, ⟨edge, hedge, rfl⟩, rfl⟩, hdrawn⟩, ?_⟩
    exact key_of_mem_block (fun e he => key_of_mem_group (counted_subset _ _ he)) hdrawn

/-- Consolidation changes no arrow. -/
theorem arrow_consolidate (options : ConsolidationOptions) (backEdges : List (Name × Name))
    (edges : List Edge) (v w : Name) :
    Arrow (consolidate options backEdges edges) v w ↔ Arrow edges v w := by
  rw [← arrow_markBackEdges backEdges edges, Arrow, Arrow, List.mem_map, List.mem_map]
  constructor
  · rintro ⟨drawn, hdrawn, hends⟩
    obtain ⟨edge, hedge, hkey⟩ := (key_of_mem_consolidate ..).mp ⟨drawn, hdrawn, rfl⟩
    exact ⟨edge, hedge, (ends_of_key_eq hkey).trans hends⟩
  · rintro ⟨edge, hedge, hends⟩
    obtain ⟨drawn, hdrawn, hkey⟩ :=
      (key_of_mem_consolidate options ..).mpr ⟨edge, hedge, rfl⟩
    exact ⟨drawn, hdrawn, (ends_of_key_eq hkey).trans hends⟩

end FlowDiagram
