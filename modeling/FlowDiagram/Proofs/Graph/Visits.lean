import FlowDiagram.Sequence.Distinct
import Mathlib.Logic.Relation
import Mathlib.Data.List.Nodup

/-!
# Depth-first order

The order in which a recursive depth-first search meets nodes. A node that was met before is passed
over. Any other node is met, then everything below its successors, one successor after the other,
and only then the search goes on to the next node.

## Main definitions

* `Visits`: what has been met after some nodes were visited.

`Visits.enter_append` says how a list of nodes that are still to be visited stands for the
recursion. Searches may differ in what they look at and still meet the same nodes: `Visits.skipAll`,
`Visits.of_distinct`, `Visits.congr` and `Visits.filter` say how.
-/

namespace FlowDiagram

open Relation

variable {α : Type}

/-- `Visits next met nodes after`: visiting nodes one after the other, where others have been met
already, ends with the nodes met in `after`. -/
inductive Visits (next : α → List α) : List α → List α → List α → Prop
  /-- There is nothing to visit. -/
  | done {met : List α} : Visits next met [] met
  /-- The next node was met before. -/
  | skip {met nodes after : List α} {node : α} (h : node ∈ met)
      (rest : Visits next met nodes after) : Visits next met (node :: nodes) after
  /-- The next node is met, and everything below it. -/
  | enter {met middle nodes after : List α} {node : α} (h : node ∉ met)
      (below : Visits next (met ++ [node]) (next node) middle)
      (rest : Visits next middle nodes after) : Visits next met (node :: nodes) after

namespace Visits

variable {next : α → List α} {met nodes after : List α}

/-! ## Visits one after the other -/

theorem append {more result : List α} (h : Visits next met nodes after)
    (h' : Visits next after more result) : Visits next met (nodes ++ more) result := by
  induction h with
  | done => exact h'
  | skip hmem _ ih => exact .skip hmem (ih h')
  | enter hmem below _ _ ih => exact .enter hmem below (ih h')

theorem exists_of_append {more result : List α} (h : Visits next met (nodes ++ more) result) :
    ∃ middle, Visits next met nodes middle ∧ Visits next middle more result := by
  generalize hall : nodes ++ more = all at h
  induction h generalizing nodes with
  | @done met =>
    obtain ⟨rfl, rfl⟩ := List.append_eq_nil_iff.mp hall
    exact ⟨met, .done, .done⟩
  | @skip met rest after node hmem hrest ih =>
    cases nodes with
    | nil =>
      obtain rfl : more = node :: rest := hall
      exact ⟨met, .done, .skip hmem hrest⟩
    | cons first nodes =>
      obtain ⟨rfl, rfl⟩ := List.cons.inj hall
      obtain ⟨middle, hfirst, hmore⟩ := ih rfl
      exact ⟨middle, .skip hmem hfirst, hmore⟩
  | @enter met below rest after node hmem hbelow hrest _ ih =>
    cases nodes with
    | nil =>
      obtain rfl : more = node :: rest := hall
      exact ⟨met, .done, .enter hmem hbelow hrest⟩
    | cons first nodes =>
      obtain ⟨rfl, rfl⟩ := List.cons.inj hall
      obtain ⟨middle, hfirst, hmore⟩ := ih rfl
      exact ⟨middle, .enter hmem hbelow hfirst, hmore⟩

/-- Meeting a node puts its successors in front of the nodes that are still to be visited. -/
theorem enter_append {node : α} (hmem : node ∉ met)
    (h : Visits next (met ++ [node]) (next node ++ nodes) after) :
    Visits next met (node :: nodes) after := by
  obtain ⟨middle, hbelow, hrest⟩ := h.exists_of_append
  exact .enter hmem hbelow hrest

/-! ## What is met -/

theorem isPrefix (h : Visits next met nodes after) : met <+: after := by
  induction h with
  | done => exact List.prefix_refl _
  | skip _ _ ih => exact ih
  | enter _ _ _ ihbelow ih => exact ((List.prefix_append _ _).trans ihbelow).trans ih

theorem mem_of_met (h : Visits next met nodes after) {v : α} (hv : v ∈ met) : v ∈ after :=
  h.isPrefix.subset hv

theorem nodup (h : Visits next met nodes after) (hmet : met.Nodup) : after.Nodup := by
  induction h with
  | done => exact hmet
  | skip _ _ ih => exact ih hmet
  | @enter met _ _ _ node hmem _ _ ihbelow ih =>
    refine ih (ihbelow ?_)
    rw [List.nodup_append]
    refine ⟨hmet, List.nodup_singleton node, fun a ha b hb hab => hmem ?_⟩
    rwa [← List.mem_singleton.mp hb, ← hab]

theorem mem_of_mem (h : Visits next met nodes after) {v : α} (hv : v ∈ nodes) : v ∈ after := by
  induction h with
  | done => exact absurd hv List.not_mem_nil
  | skip hmem hrest ih =>
    rcases List.mem_cons.mp hv with rfl | hv
    · exact hrest.mem_of_met hmem
    · exact ih hv
  | enter hmem hbelow hrest _ ih =>
    rcases List.mem_cons.mp hv with rfl | hv
    · exact hrest.mem_of_met (hbelow.mem_of_met (by simp))
    · exact ih hv

/-- The successors of every node that is met on the way are met, too. -/
theorem mem_of_next (h : Visits next met nodes after) {v w : α} (hv : v ∈ after) (hnew : v ∉ met)
    (hw : w ∈ next v) : w ∈ after := by
  induction h with
  | done => exact absurd hv hnew
  | skip _ _ ih => exact ih hv hnew
  | @enter met middle nodes after node hmem hbelow hrest ihbelow ih =>
    by_cases hmiddle : v ∈ middle
    · refine hrest.mem_of_met ?_
      by_cases hnode : v = node
      · subst hnode
        exact hbelow.mem_of_mem hw
      · exact ihbelow hmiddle (by simp [hnew, hnode])
    · exact ih hv hmiddle

/-- Only what the visited nodes lead to is met. -/
theorem reached (h : Visits next met nodes after) {v : α} (hv : v ∈ after) :
    v ∈ met ∨ ∃ s ∈ nodes, ReflTransGen (fun a b => b ∈ next a) s v := by
  induction h with
  | done => exact Or.inl hv
  | skip _ _ ih =>
    exact (ih hv).imp_right fun ⟨s, hs, hpath⟩ => ⟨s, List.mem_cons_of_mem _ hs, hpath⟩
  | @enter met middle nodes after node _ _ _ ihbelow ih =>
    rcases ih hv with hmiddle | ⟨s, hs, hpath⟩
    · rcases ihbelow hmiddle with hmet | ⟨s, hs, hpath⟩
      · rcases List.mem_append.mp hmet with hmet | hnode
        · exact Or.inl hmet
        · rw [List.mem_singleton.mp hnode]
          exact Or.inr ⟨node, List.mem_cons_self, .refl⟩
      · exact Or.inr ⟨node, List.mem_cons_self, .head hs hpath⟩
    · exact Or.inr ⟨s, List.mem_cons_of_mem _ hs, hpath⟩

/-- The order is determined. -/
theorem unique {after' : List α} (h : Visits next met nodes after)
    (h' : Visits next met nodes after') : after = after' := by
  induction h generalizing after' with
  | done =>
    cases h'
    rfl
  | skip hmem _ ih =>
    cases h' with
    | skip _ hrest => exact ih hrest
    | enter hnot _ _ => exact absurd hmem hnot
  | enter hnot _ _ ihbelow ih =>
    cases h' with
    | skip hmem _ => exact absurd hmem hnot
    | enter _ hbelow hrest =>
      obtain rfl := ihbelow hbelow
      exact ih hrest

/-! ## Searches that look at other nodes -/

/-- Nodes that were all met before are passed over. -/
theorem skipAll (h : nodes ⊆ met) : Visits next met nodes met := by
  induction nodes with
  | nil => exact .done
  | cons node nodes ih =>
    obtain ⟨hnode, hnodes⟩ := List.cons_subset.mp h
    exact .skip hnode (ih hnodes)

/-- Only the successors of what is met matter. -/
theorem congr {next' : α → List α} (h : Visits next met nodes after)
    (hnext : ∀ v ∈ after, next v = next' v) : Visits next' met nodes after := by
  induction h with
  | done => exact .done
  | skip hmem _ ih => exact .skip hmem (ih hnext)
  | @enter met middle nodes after node hmem hbelow hrest ihbelow ih =>
    have hmiddle : ∀ v ∈ middle, next v = next' v := fun v hv => hnext v (hrest.mem_of_met hv)
    have hnode : next node = next' node := hmiddle node (hbelow.mem_of_met (by simp))
    exact .enter hmem (hnode ▸ ihbelow hmiddle) (ih hnext)

/-- Nodes without successors can be left out of a search. -/
theorem filter {keep : α → Bool} (h : Visits next met nodes after)
    (hleaf : ∀ v, keep v = false → next v = []) :
    Visits (fun v => (next v).filter keep) (met.filter keep) (nodes.filter keep)
      (after.filter keep) := by
  induction h with
  | done => exact .done
  | @skip met nodes after node hmem _ ih =>
    cases hkeep : keep node with
    | true =>
      rw [List.filter_cons_of_pos hkeep]
      exact .skip (List.mem_filter.mpr ⟨hmem, hkeep⟩) ih
    | false =>
      rw [List.filter_cons_of_neg (by simp [hkeep])]
      exact ih
  | @enter met middle nodes after node hmem hbelow _ ihbelow ih =>
    cases hkeep : keep node with
    | true =>
      rw [List.filter_cons_of_pos hkeep]
      refine .enter (fun h => hmem (List.mem_filter.mp h).1) ?_ ih
      rwa [List.filter_append, List.filter_cons_of_pos hkeep, List.filter_nil] at ihbelow
    | false =>
      -- Nothing lies below the node, so it is all that was met.
      have hdropped : [node].filter keep = [] := List.filter_cons_of_neg (by simp [hkeep])
      rw [List.filter_cons_of_neg (by simp [hkeep])]
      rw [hleaf node hkeep] at hbelow
      cases hbelow
      rwa [List.filter_append, hdropped, List.append_nil] at ih

section Distinct

variable [DecidableEq α]

/-- Nodes that were met before may be put back into a list of nodes. -/
theorem of_filter {seen : List α} (hseen : seen ⊆ met)
    (h : Visits next met (nodes.filter (· ∉ seen)) after) : Visits next met nodes after := by
  induction nodes generalizing met with
  | nil => exact h
  | cons node nodes ih =>
    by_cases hmem : node ∈ seen
    · rw [List.filter_cons_of_neg (by simpa using hmem)] at h
      exact .skip (hseen hmem) (ih hseen h)
    · rw [List.filter_cons_of_pos (by simpa using hmem)] at h
      cases h with
      | skip hmet rest => exact .skip hmet (ih hseen rest)
      | enter hnew below rest =>
        exact .enter hnew below
          (ih (fun v hv => below.mem_of_met (List.mem_append_left _ (hseen hv))) rest)

/-- It makes no difference whether a node is visited once or more often. -/
theorem of_distinct (h : Visits next met (distinct nodes) after) :
    Visits next met nodes after := by
  induction nodes generalizing met with
  | nil => exact h
  | cons node nodes ih =>
    have hothers : (distinct nodes).filter (· ≠ node) = (distinct nodes).filter (· ∉ [node]) := by
      simp
    rw [distinct, hothers] at h
    cases h with
    | skip hmet rest => exact .skip hmet (ih (rest.of_filter (by simpa using hmet)))
    | enter hnew below rest =>
      have hnode : [node] ⊆ _ := fun v hv => below.mem_of_met (List.mem_append_right _ hv)
      exact .enter hnew below (ih (rest.of_filter hnode))

/-- The same holds for the successors of every node. -/
theorem of_distinct_next (h : Visits (fun v => distinct (next v)) met nodes after) :
    Visits next met nodes after := by
  induction h with
  | done => exact .done
  | skip hmem _ ih => exact .skip hmem ih
  | enter hmem _ _ ihbelow ih => exact .enter hmem ihbelow.of_distinct ih

end Distinct

end Visits

end FlowDiagram
