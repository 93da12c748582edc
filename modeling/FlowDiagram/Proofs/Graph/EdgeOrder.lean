import FlowDiagram.Proofs.Graph.Blocks
import Mathlib.Data.List.Perm.Basic

/-!
# Consolidation and the order of edges

While conditions are hidden, the edges that are drawn do not depend on the order of the edges that
they stand for. An edge that is drawn for several shows their number, the flag that all of them
share, and whether one of them fans out; all of this is settled by the edges whatever their order.
The order in which edges are drawn may change, but not which edges these are. (While conditions are
shown this is different: the example in a label is the condition of the first edge that has one.)

## Main definitions

* `Consolidation.SameDrawn`: two outcomes of consolidation show the same edges.

`sameDrawn_consolidateGiven` is the main result.
-/

namespace FlowDiagram

/-- Marks depend on which back edges there are, and on nothing else about them. -/
theorem markBackEdges_congr {backEdges backEdges' : List (Name × Name)}
    (h : ∀ pair, pair ∈ backEdges ↔ pair ∈ backEdges') (edges : List Edge) :
    markBackEdges backEdges edges = markBackEdges backEdges' edges := by
  refine List.map_congr_left fun edge _ => ?_
  have hcontains : backEdges.contains edge.ends = backEdges'.contains edge.ends := by
    rw [Bool.eq_iff_iff, List.contains_iff_mem, List.contains_iff_mem]
    exact h edge.ends
  rw [hcontains]

namespace Consolidation

/-- Two outcomes of consolidation show the same edges in some order, or are the same error. -/
inductive SameDrawn :
    Except ConsolidationError (List Edge) → Except ConsolidationError (List Edge) → Prop
  | edges {drawn drawn' : List Edge} (h : drawn.Perm drawn') : SameDrawn (.ok drawn) (.ok drawn')
  | error (e : ConsolidationError) : SameDrawn (.error e) (.error e)

variable {options : ConsolidationOptions} {edges edges' : List Edge}

/-! ## Edges of one key -/

theorem total_perm (h : edges.Perm edges') : total edges = total edges' := by
  induction h with
  | nil => rfl
  | cons _ _ ih => simp only [total, ih]
  | swap _ _ _ => simp only [total]; omega
  | trans _ _ ih ih' => exact ih.trans ih'

theorem group_perm (h : edges.Perm edges') (key : EdgeKey) :
    (group edges key).Perm (group edges' key) :=
  h.filter _

/-- What counts is a matter of which edges there are. -/
theorem counted_perm (h : edges.Perm edges') (showConditions : Bool) :
    (counted showConditions edges).Perm (counted showConditions edges') := by
  cases showConditions with
  | true => exact h
  | false =>
    have hspecific := h.filter (·.label ≠ elseLabel)
    rw [counted_hidden, counted_hidden, hspecific.isEmpty_eq]
    split
    · exact h
    · exact hspecific

/-- A flag is shared by all edges, whichever of them is the first. -/
theorem sharedFlag_perm {first first' : Edge} {others others' : List Edge}
    (h : (first :: others).Perm (first' :: others')) :
    sharedFlag first others = sharedFlag first' others' := by
  refine Option.ext fun flag => ?_
  rw [sharedFlag_eq_some_iff, sharedFlag_eq_some_iff]
  simp only [h.mem_iff]

/-- The edge that stands for several does not tell which of them is the first. -/
theorem merge_perm (hhidden : options.showConditions = false) {first first' : Edge}
    {others others' : List Edge} (hkey : first.key = first'.key)
    (h : (first :: others).Perm (first' :: others')) :
    merge options first others = merge options first' others' := by
  obtain ⟨hsource, htarget, hback⟩ := EdgeKey.mk.inj hkey
  have hfanOut : (first :: others).any (·.isFanOut) = (first' :: others').any (·.isFanOut) :=
    h.any_eq
  simp only [merge, hsource, htarget, hback, hfanOut, total_perm h, sharedFlag_perm h,
    summaryLabel_of_hidden hhidden _ (first :: others) (first' :: others')]

/-- Edges of one key are drawn alike in any order. -/
theorem block_perm (hhidden : options.showConditions = false) {key : EdgeKey}
    (hkey : ∀ edge ∈ edges, edge.key = key) (h : edges.Perm edges') :
    (block options edges).Perm (block options edges') := by
  have hlength := h.length_eq
  match edges, edges', hlength with
  | [], [], _ => exact .refl _
  | [edge], [edge'], _ => exact h
  | first :: second :: others, first' :: second' :: others', _ =>
    simp only [block]
    rw [total_perm h]
    split
    · exact h
    · have hsame : first.key = first'.key :=
        (hkey _ List.mem_cons_self).trans (hkey _ (h.mem_iff.mpr List.mem_cons_self)).symm
      rw [merge_perm hhidden hsame h]

theorem isOverlong_perm (h : edges.Perm edges') :
    isOverlong options edges = isOverlong options edges' := by
  rw [Bool.eq_iff_iff, isOverlong_iff, isOverlong_iff, Overlong, Overlong, h.length_eq,
    total_perm h]

end Consolidation

/-! ## All keys -/

open Consolidation

variable {options : ConsolidationOptions} {edges edges' : List Edge}
  {backEdges backEdges' : List (Name × Name)}

/-- Rearranged edges have the same keys, and the same edges count for each. -/
theorem exists_blocks_perm (options : ConsolidationOptions) (hedges : edges.Perm edges')
    (hback : ∀ pair, pair ∈ backEdges ↔ pair ∈ backEdges') :
    ∃ (keys keys' : List EdgeKey) (counts counts' : EdgeKey → List Edge),
      blocks options backEdges edges = keys.map counts ∧
        blocks options backEdges' edges' = keys'.map counts' ∧ keys.Perm keys' ∧
        (∀ key, (counts key).Perm (counts' key)) ∧ ∀ key, ∀ edge ∈ counts key, edge.key = key := by
  have hmarked : (markBackEdges backEdges edges).Perm (markBackEdges backEdges' edges') := by
    rw [markBackEdges_congr hback]
    exact hedges.map _
  refine ⟨_, _, _, _, blocks_eq .., blocks_eq .., distinct_perm (hmarked.map _), fun key => ?_,
    fun key edge hedge => ?_⟩
  · exact counted_perm (group_perm hmarked key) _
  · exact key_of_mem_group (counted_subset _ _ hedge)

/-- While conditions are hidden, edges in another order, with the back edges in another order, are
consolidated to the same edges: the same labels, flags, fan-out marks and numbers, each as many
times. If a number is too long to be written it is too long in either order. -/
theorem sameDrawn_consolidateGiven (hhidden : options.showConditions = false)
    (hedges : edges.Perm edges') (hback : ∀ pair, pair ∈ backEdges ↔ pair ∈ backEdges') :
    SameDrawn (consolidateGiven options backEdges edges)
      (consolidateGiven options backEdges' edges') := by
  obtain ⟨keys, keys', counts, counts', hblocks, hblocks', hkeys, hcounts, hkey⟩ :=
    exists_blocks_perm options hedges hback
  have hover : (blocks options backEdges edges).any (isOverlong options) =
      (blocks options backEdges' edges').any (isOverlong options) := by
    rw [hblocks, hblocks', List.any_map, List.any_map, hkeys.any_eq]
    exact congrArg keys'.any (funext fun key => isOverlong_perm (hcounts key))
  have hdrawn : (consolidate options backEdges edges).Perm
      (consolidate options backEdges' edges') := by
    rw [consolidate, consolidate, hblocks, hblocks', List.flatMap_map, List.flatMap_map]
    refine (hkeys.flatMap_right _).trans (List.Perm.flatMap_left _ fun key _ => ?_)
    exact block_perm hhidden (hkey key) (hcounts key)
  rw [consolidateGiven, consolidateGiven, hover]
  split
  · exact .error _
  · exact .edges hdrawn

/-- Two transitions from one activity to another, and one that leads back. -/
def retryEdges : List Edge :=
  [{ source := "Wait", target := "Check", label := "answered", multiplicity_pos := Nat.one_pos },
    { source := "Wait", target := "Check", label := "expired", featureFlag := some "REMIND",
      multiplicity_pos := Nat.one_pos },
    { source := "Check", target := "Wait", multiplicity_pos := Nat.one_pos }]

/-- The way back may come first. It is drawn first then, and nothing else is different. -/
theorem sameDrawn_consolidateGiven_retry :
    retryEdges.Perm retryEdges.reverse ∧
      SameDrawn (consolidateGiven {} [("Check", "Wait")] retryEdges)
        (consolidateGiven {} [("Check", "Wait")] retryEdges.reverse) ∧
      consolidateGiven {} [("Check", "Wait")] retryEdges ≠
        consolidateGiven {} [("Check", "Wait")] retryEdges.reverse := by
  have hperm : retryEdges.Perm retryEdges.reverse := (List.reverse_perm _).symm
  exact ⟨hperm, sameDrawn_consolidateGiven rfl hperm fun _ => Iff.rfl, by decide +kernel⟩

end FlowDiagram
