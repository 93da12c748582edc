import FlowDiagram.Proofs.Graph.Consolidated

/-!
# What is drawn for each key

Consolidation draws one block of edges per key, in the order of the first edges, and nothing else. A
block stands for as many transitions as the edges of its key that count, and edges of other keys
have no part in it: no transition is drawn twice, and a back edge is never put together with a
forward edge.

A label can be too long to be written: there is a limit to the digits of a number. If the edges of
some key would be put together under such a number, nothing is drawn at all.

## Main definitions

* `Consolidation.DrawnFor`: what a block shows of the edges of its key.
* `Consolidation.Overlong`: edges whose number cannot be written.

`consolidateGiven_blocks` is the main result.
-/

namespace FlowDiagram

namespace Consolidation

variable {options : ConsolidationOptions} {edges : List Edge} {key : EdgeKey}

/-- Which edges of a group count: those of the branch that is taken when no condition holds are left
out where there are others, unless conditions are shown. -/
theorem counted_eq_ite (showConditions : Bool) (edges : List Edge) :
    counted showConditions edges =
      if showConditions = false ∧ ∃ edge ∈ edges, edge.label ≠ elseLabel then
        edges.filter (·.label ≠ elseLabel)
      else edges := by
  cases showConditions with
  | true => rfl
  | false =>
    rw [counted_hidden]
    by_cases hother : ∃ edge ∈ edges, edge.label ≠ elseLabel
    · have hsome : (edges.filter (·.label ≠ elseLabel)).isEmpty = false := by
        simpa using hother
      rw [hsome, if_neg Bool.false_ne_true, if_pos ⟨rfl, hother⟩]
    · have hnone : (edges.filter (·.label ≠ elseLabel)).isEmpty = true := by
        simpa using hother
      rw [hnone, if_pos rfl, if_neg fun h => hother h.2]

/-- Edges that would be put together under a number with too many digits. -/
def Overlong (options : ConsolidationOptions) (edges : List Edge) : Prop :=
  1 < edges.length ∧ options.summaryThreshold ≤ total edges ∧
    Text.isWritable (total edges) = false

instance (options : ConsolidationOptions) (edges : List Edge) :
    Decidable (Overlong options edges) :=
  inferInstanceAs (Decidable (_ ∧ _ ∧ _))

theorem isOverlong_iff : isOverlong options edges = true ↔ Overlong options edges := by
  match edges with
  | [] => simp [isOverlong, Overlong]
  | [edge] => simp [isOverlong, Overlong]
  | first :: second :: others => simp [isOverlong, Overlong]

/-- What is drawn for edges of one key. Few edges are drawn as they are. A single edge is drawn for
many, and it shows what they have in common. -/
structure DrawnFor (options : ConsolidationOptions) (key : EdgeKey) (edges drawn : List Edge) :
    Prop where
  ne_nil : drawn ≠ []
  key_eq : ∀ edge ∈ drawn, edge.key = key
  total_eq : total drawn = total edges
  kept : edges.length = 1 ∨ (total edges : Int) < options.summaryThreshold → drawn = edges
  merged : ¬ (edges.length = 1 ∨ (total edges : Int) < options.summaryThreshold) →
    ∃ one, drawn = [one] ∧ (one.isFanOut = true ↔ ∃ edge ∈ edges, edge.isFanOut = true) ∧
      ∀ flag, one.featureFlag = some flag ↔ ∀ edge ∈ edges, edge.featureFlag = some flag

/-- A flag is shown for several edges if all of them have it. -/
theorem sharedFlag_eq_some_iff (first : Edge) (others : List Edge) (flag : Text) :
    sharedFlag first others = some flag ↔
      ∀ edge ∈ first :: others, edge.featureFlag = some flag := by
  rw [sharedFlag, List.forall_mem_cons]
  split
  · rename_i hall
    simp only [List.all_eq_true, decide_eq_true_eq] at hall
    exact ⟨fun h => ⟨h, fun edge hedge => (hall edge hedge).trans h⟩, And.left⟩
  · rename_i hall
    simp only [List.all_eq_true, decide_eq_true_eq] at hall
    exact ⟨nofun, fun h => absurd (fun edge hedge => (h.2 edge hedge).trans h.1.symm) hall⟩

theorem drawnFor_self (hne : edges ≠ []) (hkey : ∀ edge ∈ edges, edge.key = key)
    (hfew : edges.length = 1 ∨ (total edges : Int) < options.summaryThreshold) :
    DrawnFor options key edges edges where
  ne_nil := hne
  key_eq := hkey
  total_eq := rfl
  kept _ := rfl
  merged hmany := absurd hfew hmany

theorem drawnFor_merge {first : Edge} {others : List Edge} (hkey : first.key = key)
    (hmany : ¬ ((first :: others).length = 1 ∨
      (total (first :: others) : Int) < options.summaryThreshold)) :
    DrawnFor options key (first :: others) [merge options first others] where
  ne_nil := List.cons_ne_nil _ _
  key_eq := List.forall_mem_singleton.mpr hkey
  total_eq := rfl
  kept hfew := absurd hfew hmany
  merged _ := ⟨_, rfl, List.any_eq_true, sharedFlag_eq_some_iff first others⟩

/-- Every block shows the edges that it stands for. -/
theorem drawnFor_block (hne : edges ≠ []) (hkey : ∀ edge ∈ edges, edge.key = key) :
    DrawnFor options key edges (block options edges) := by
  match edges, hne, hkey with
  | [], hne, _ => exact absurd rfl hne
  | [edge], hne, hkey => exact drawnFor_self hne hkey (Or.inl rfl)
  | first :: second :: others, hne, hkey =>
    simp only [block]
    split
    · rename_i hfew
      exact drawnFor_self hne hkey (Or.inr hfew)
    · rename_i hmany
      exact drawnFor_merge (hkey first List.mem_cons_self) (not_or.mpr ⟨by simp, hmany⟩)

end Consolidation

open Consolidation

/-- Consolidation fails exactly if a number cannot be written. -/
theorem consolidateGiven_eq_ite (options : ConsolidationOptions) (backEdges : List (Name × Name))
    (edges : List Edge) :
    consolidateGiven options backEdges edges =
      if ∃ counts ∈ blocks options backEdges edges, Overlong options counts then
        .error .overlongCount
      else .ok (consolidate options backEdges edges) := by
  have hany : (blocks options backEdges edges).any (isOverlong options) = true ↔
      ∃ counts ∈ blocks options backEdges edges, Overlong options counts := by
    simp only [List.any_eq_true, isOverlong_iff]
  rw [consolidateGiven]
  by_cases hover : ∃ counts ∈ blocks options backEdges edges, Overlong options counts
  · rw [if_pos hover, if_pos (hany.mpr hover)]
  · rw [if_neg hover, if_neg (hover ∘ hany.mp)]

/-- Consolidation draws a block for every key, in the order in which the keys appear, or fails if
the edges that count for some key are put together under a number that cannot be written. The edges
that are drawn for a key are settled by the edges of this key, whatever the other edges are. -/
theorem consolidateGiven_blocks (options : ConsolidationOptions) (backEdges : List (Name × Name))
    (edges : List Edge) :
    let marked := markBackEdges backEdges edges
    let keys := distinct (marked.map Edge.key)
    let counts (key : EdgeKey) : List Edge := counted options.showConditions (group marked key)
    let drawn := keys.flatMap fun key => block options (counts key)
    (∀ key, counts key =
        if options.showConditions = false ∧ ∃ edge ∈ group marked key, edge.label ≠ elseLabel then
          (group marked key).filter (·.label ≠ elseLabel)
        else group marked key) ∧
      (consolidateGiven options backEdges edges =
        if ∃ key ∈ keys, Overlong options (counts key) then .error .overlongCount
        else .ok drawn) ∧
      (∀ key ∈ keys, DrawnFor options key (counts key) (block options (counts key))) ∧
      ∀ key ∈ keys, group drawn key = block options (counts key) := by
  intro marked keys counts drawn
  refine ⟨fun key => counted_eq_ite _ _, ?_, fun key hmem => ?_, fun key hmem => ?_⟩
  · have hblocks : blocks options backEdges edges = keys.map counts :=
      blocks_eq options backEdges edges
    have hdrawn : consolidate options backEdges edges = drawn := by
      rw [consolidate, hblocks, List.flatMap_map]
    rw [consolidateGiven_eq_ite, hdrawn, hblocks]
    simp only [List.mem_map, exists_exists_and_eq_and]
  · obtain ⟨edge, hedge, rfl⟩ := List.mem_map.mp (mem_distinct.mp hmem)
    exact drawnFor_block (counted_ne_nil _ (group_ne_nil hedge))
      fun counted hcounted => key_of_mem_group (counted_subset _ _ hcounted)
  · exact group_flatMap (nodup_distinct _) (key_of_mem_block_counted options marked) hmem

/-- Two edges from one activity to another. The first stands for a given number of transitions. -/
def pairOf (count : Nat) (hcount : 0 < count) : List Edge :=
  [{ source := "A", target := "B", label := "x", multiplicity := count,
     multiplicity_pos := hcount },
    { source := "A", target := "B", label := "y", multiplicity_pos := Nat.one_pos }]

/-- Nothing is drawn for two edges if their number has too many digits. -/
theorem consolidateGiven_pairOf {count : Nat} (hcount : 0 < count)
    (h : Nat.pow 10 Text.maxDigits ≤ count + 1) :
    consolidateGiven {} [] (pairOf count hcount) = .error .overlongCount := by
  have hover : Overlong {} (pairOf count hcount) := by
    refine ⟨Nat.one_lt_two, ?_, decide_eq_false (Nat.not_lt.mpr h)⟩
    change (2 : Int) ≤ (count + 1 : Nat)
    omega
  have hblocks : blocks {} [] (pairOf count hcount) = [pairOf count hcount] := rfl
  rw [consolidateGiven_eq_ite, hblocks, if_pos ⟨_, List.mem_singleton_self _, hover⟩]

theorem pow_sub_one_pos {digits : Nat} (h : digits ≠ 0) : 0 < Nat.pow 10 digits - 1 :=
  Nat.sub_pos_of_lt (Nat.one_lt_pow h (by omega))

/-- The smallest such number is the power of ten with as many zeros as a number may have digits. -/
theorem consolidateGiven_overlong :
    consolidateGiven {} []
        (pairOf (Nat.pow 10 Text.maxDigits - 1) (pow_sub_one_pos (by decide))) =
      .error .overlongCount :=
  consolidateGiven_pairOf _ (by omega)

end FlowDiagram
