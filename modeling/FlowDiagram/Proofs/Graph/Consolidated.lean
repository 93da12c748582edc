import FlowDiagram.Proofs.Graph.Consolidation
import Mathlib.Data.List.Basic

/-!
# Consolidated edges

What consolidation leaves behind, and why a second pass finds nothing to do. The edges of one key
stand together, and they are few: a single edge, or parallel edges that stand for fewer transitions
than a summary needs. While conditions are hidden, the edges of one key are either all the branch
that is taken when no condition holds, or none of them is.

The label of a merged edge is never read again, since the edge is alone under its key.

## Main definitions

* `Consolidation.Settled`: the edges of one key, with nothing left to put together.
* `Consolidated`: edges that consolidation does not change.

`consolidate_eq_self_iff` says that these are the only edges it does not change, and
`consolidateGiven_idempotent` that they are what a first pass gives.
-/

namespace FlowDiagram

/-! ## Lists put together key by key -/

section Keys

variable {keys : List EdgeKey} {part : EdgeKey → List Edge}

/-- Parts that have a key each, put together, show their keys in the order of the parts. -/
theorem distinct_keys_flatMap (hnodup : keys.Nodup) (hne : ∀ key ∈ keys, part key ≠ [])
    (hkey : ∀ key, ∀ edge ∈ part key, edge.key = key) :
    distinct ((keys.flatMap part).map Edge.key) = keys := by
  induction keys with
  | nil => rfl
  | cons key keys ih =>
    obtain ⟨hnew, hnodup⟩ := List.nodup_cons.mp hnodup
    obtain ⟨hpart, hne⟩ := List.forall_mem_cons.mp hne
    have hkeys : ∀ other ∈ (part key).map Edge.key, other = key := by
      intro other hother
      obtain ⟨edge, hedge, rfl⟩ := List.mem_map.mp hother
      exact hkey key edge hedge
    have hfirst : distinct ((part key).map Edge.key) = [key] :=
      distinct_eq_singleton (by simpa using hpart) hkeys
    have hothers : keys.filter (· ∉ (part key).map Edge.key) = keys := by
      refine List.filter_eq_self.mpr fun other hother => decide_eq_true fun hmem => ?_
      exact hnew (hkeys other hmem ▸ hother)
    rw [List.flatMap_cons, List.map_append, distinct_append, hfirst, ih hnodup hne, hothers]
    rfl

/-- Every part is found under its key. -/
theorem group_flatMap (hnodup : keys.Nodup) (hkey : ∀ key, ∀ edge ∈ part key, edge.key = key)
    {key : EdgeKey} (h : key ∈ keys) :
    Consolidation.group (keys.flatMap part) key = part key :=
  filter_flatMap_of_nodup hnodup hkey h

end Keys

/-! ## One key -/

namespace Consolidation

variable {options : ConsolidationOptions} {edges : List Edge}

/-- The edges of one key, with nothing left to put together or to leave out. -/
structure Settled (options : ConsolidationOptions) (edges : List Edge) : Prop where
  few : edges.length ≤ 1 ∨ (total edges : Int) < options.summaryThreshold
  alike : options.showConditions = false →
    (∀ edge ∈ edges, edge.label = elseLabel) ∨ ∀ edge ∈ edges, edge.label ≠ elseLabel

/-- What counts of the edges of one key is the other branch alone, or everything else. -/
theorem counted_alike (edges : List Edge) :
    (∀ edge ∈ counted false edges, edge.label = elseLabel) ∨
      ∀ edge ∈ counted false edges, edge.label ≠ elseLabel := by
  rw [counted_hidden]
  split
  · rename_i hnone
    left
    simpa using hnone
  · right
    intro edge hedge
    exact of_decide_eq_true (List.mem_filter.mp hedge).2

/-- Of settled edges all count. -/
theorem Settled.counted_eq (h : Settled options edges) :
    counted options.showConditions edges = edges := by
  cases hshow : options.showConditions with
  | true => rfl
  | false =>
    rw [counted_hidden]
    rcases h.alike hshow with halike | halike
    · rw [if_pos (by simpa using halike)]
    · have hall : edges.filter (·.label ≠ elseLabel) = edges := by
        simpa [List.filter_eq_self] using halike
      rw [hall, ite_self]

/-- Settled edges are drawn as they are. -/
theorem Settled.block_eq (h : Settled options edges) : block options edges = edges := by
  match edges, h with
  | [], _ => rfl
  | [edge], _ => rfl
  | first :: second :: others, h =>
    have hfew := h.few.resolve_left (by simp)
    simp only [block]
    rw [if_pos hfew]

/-- A number of settled edges is never written, so it cannot be too long. -/
theorem Settled.isOverlong_eq (h : Settled options edges) : isOverlong options edges = false := by
  match edges, h with
  | [], _ => rfl
  | [edge], _ => rfl
  | first :: second :: others, h =>
    have hfew := h.few.resolve_left (by simp)
    simp only [isOverlong, decide_eq_false (Int.not_le.mpr hfew), Bool.false_and]

theorem settled_nil (options : ConsolidationOptions) : Settled options [] where
  few := Or.inl (Nat.zero_le 1)
  alike _ := Or.inl fun _ hedge => absurd hedge List.not_mem_nil

theorem settled_singleton (options : ConsolidationOptions) (edge : Edge) :
    Settled options [edge] where
  few := Or.inl (Nat.le_refl 1)
  alike _ := by
    by_cases helse : edge.label = elseLabel
    · exact Or.inl (List.forall_mem_singleton.mpr helse)
    · exact Or.inr (List.forall_mem_singleton.mpr helse)

/-- Whatever the edges of one key are, the ones that are drawn for them are settled. -/
theorem settled_block (options : ConsolidationOptions) (edges : List Edge) :
    Settled options (block options (counted options.showConditions edges)) := by
  match hcounted : counted options.showConditions edges with
  | [] => exact settled_nil options
  | [edge] => exact settled_singleton options edge
  | first :: second :: others =>
    simp only [block]
    split
    · rename_i hfew
      refine ⟨Or.inr hfew, fun hshow => ?_⟩
      rw [← hcounted, hshow]
      exact counted_alike edges
    · exact settled_singleton options _

/-- The edges that are drawn for a group have its key. -/
theorem key_of_mem_block_counted (options : ConsolidationOptions) (edges : List Edge)
    (key : EdgeKey) :
    ∀ drawn ∈ block options (counted options.showConditions (group edges key)),
      drawn.key = key := by
  intro drawn hdrawn
  refine key_of_mem_block (fun edge hedge => ?_) hdrawn
  exact key_of_mem_group (counted_subset _ _ hedge)

end Consolidation

/-! ## All keys -/

/-- Edges that are marked already stay as they are. -/
theorem markBackEdges_eq_self {backEdges : List (Name × Name)} {edges : List Edge}
    (h : ∀ edge ∈ edges, edge.ends ∈ backEdges → edge.isBackEdge = true) :
    markBackEdges backEdges edges = edges := by
  refine (List.map_congr_left fun edge hedge => ?_).trans (List.map_id edges)
  split
  · rename_i hback
    have hmarked : edge.isBackEdge = true := h edge hedge (by simpa using hback)
    rw [← hmarked]
    rfl
  · rfl

open Consolidation

/-- Edges that consolidation does not change: the back edges are marked, the edges of one key stand
together, and nothing is left to do for any key. -/
structure Consolidated (options : ConsolidationOptions) (backEdges : List (Name × Name))
    (edges : List Edge) : Prop where
  marked : ∀ edge ∈ edges, edge.ends ∈ backEdges → edge.isBackEdge = true
  together : (distinct (edges.map Edge.key)).flatMap (group edges) = edges
  settled : ∀ key, Settled options (group edges key)

namespace Consolidated

variable {options : ConsolidationOptions} {backEdges : List (Name × Name)} {edges : List Edge}

theorem blocks_eq (h : Consolidated options backEdges edges) :
    blocks options backEdges edges = (distinct (edges.map Edge.key)).map (group edges) := by
  rw [Consolidation.blocks_eq, markBackEdges_eq_self h.marked]
  exact List.map_congr_left fun key _ => (h.settled key).counted_eq

/-- Consolidation does not change consolidated edges. -/
theorem consolidate_eq (h : Consolidated options backEdges edges) :
    consolidate options backEdges edges = edges := by
  calc consolidate options backEdges edges
      = (distinct (edges.map Edge.key)).flatMap fun key => block options (group edges key) := by
        rw [consolidate, h.blocks_eq, List.flatMap_map]
    _ = (distinct (edges.map Edge.key)).flatMap (group edges) := by
        simp only [fun key => (h.settled key).block_eq]
    _ = edges := h.together

/-- No number has to be written for consolidated edges. -/
theorem consolidateGiven_eq (h : Consolidated options backEdges edges) :
    consolidateGiven options backEdges edges = .ok edges := by
  have hshort : (blocks options backEdges edges).any (isOverlong options) = false := by
    rw [h.blocks_eq, List.any_eq_false]
    intro settled hmem
    obtain ⟨key, -, rfl⟩ := List.mem_map.mp hmem
    simp [(h.settled key).isOverlong_eq]
  rw [consolidateGiven, hshort, h.consolidate_eq]
  rfl

end Consolidated

section Consolidate

variable (options : ConsolidationOptions) (backEdges : List (Name × Name)) (edges : List Edge)

/-- Consolidation keeps the order in which the keys appear first. -/
theorem distinct_keys_consolidate :
    distinct ((consolidate options backEdges edges).map Edge.key) =
      distinct ((markBackEdges backEdges edges).map Edge.key) := by
  rw [consolidate, blocks_eq, List.flatMap_map]
  refine distinct_keys_flatMap (nodup_distinct _) (fun key hmem => ?_)
    (key_of_mem_block_counted options (markBackEdges backEdges edges))
  obtain ⟨edge, hedge, rfl⟩ := List.mem_map.mp (mem_distinct.mp hmem)
  exact block_ne_nil options (counted_ne_nil _ (group_ne_nil hedge))

/-- A first pass leaves consolidated edges behind. -/
theorem consolidated_consolidate :
    Consolidated options backEdges (consolidate options backEdges edges) := by
  let keys := distinct ((markBackEdges backEdges edges).map Edge.key)
  let part (key : EdgeKey) : List Edge :=
    block options (counted options.showConditions (group (markBackEdges backEdges edges) key))
  have hdrawn : consolidate options backEdges edges = keys.flatMap part := by
    rw [consolidate, blocks_eq, List.flatMap_map]
  have hnodup : keys.Nodup := nodup_distinct _
  have hkey : ∀ key, ∀ drawn ∈ part key, drawn.key = key :=
    key_of_mem_block_counted options (markBackEdges backEdges edges)
  have hkeys : distinct ((keys.flatMap part).map Edge.key) = keys :=
    hdrawn ▸ distinct_keys_consolidate options backEdges edges
  refine ⟨fun drawn hmem hback => ?_, ?_, fun key => ?_⟩
  · obtain ⟨edge, hedge, heq⟩ :=
      (key_of_mem_consolidate options backEdges edges drawn.key).mp ⟨drawn, hmem, rfl⟩
    have hmarked : edge.isBackEdge = drawn.isBackEdge := congrArg EdgeKey.isBackEdge heq
    rw [← hmarked]
    exact isBackEdge_of_mem_markBackEdges hedge (ends_of_key_eq heq ▸ hback)
  · rw [hdrawn, hkeys]
    exact List.flatMap_congr fun key hmem => group_flatMap hnodup hkey hmem
  · rw [hdrawn]
    by_cases hmem : key ∈ keys
    · rw [group_flatMap hnodup hkey hmem]
      exact settled_block options _
    · have hnone : group (keys.flatMap part) key = [] := by
        refine List.filter_eq_nil_iff.mpr fun drawn hdrawn heq => hmem ?_
        rw [← hkeys, mem_distinct, ← of_decide_eq_true heq]
        exact List.mem_map_of_mem hdrawn
      rw [hnone]
      exact settled_nil options

/-- Consolidation leaves consolidated edges alone, and no others. -/
theorem consolidate_eq_self_iff :
    consolidate options backEdges edges = edges ↔ Consolidated options backEdges edges := by
  constructor
  · intro h
    rw [← h]
    exact consolidated_consolidate options backEdges edges
  · exact Consolidated.consolidate_eq

/-- A second pass over consolidated edges, with the same back edges and the same options, ends and
gives these edges again. This holds whatever the first pass was given, and it includes that no
number is too long to be written the second time. -/
theorem consolidateGiven_idempotent :
    consolidateGiven options backEdges (consolidate options backEdges edges) =
        .ok (consolidate options backEdges edges) ∧
      (consolidateGiven options backEdges edges >>= consolidateGiven options backEdges) =
        consolidateGiven options backEdges edges := by
  have hsecond := (consolidated_consolidate options backEdges edges).consolidateGiven_eq
  refine ⟨hsecond, ?_⟩
  cases hfirst : consolidateGiven options backEdges edges with
  | error e => rfl
  | ok drawn =>
    rw [consolidateGiven] at hfirst
    split at hfirst
    · exact absurd hfirst (by simp)
    · obtain rfl := Except.ok.inj hfirst
      exact hsecond

end Consolidate

end FlowDiagram
