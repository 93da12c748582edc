/-!
# What is left to see

Every search in this library marks the names it has met. The names of a finite pool that are
still unmarked bound how long a search can go on.

## Main definitions

* `unseen`: the members of a pool that are not marked.

Its laws say that more marks never add to it, and that marking an unmarked member takes something
away.
-/

namespace FlowDiagram

variable {α : Type}

/-- The members of a pool that have not been seen. -/
def unseen (pool : List α) (seen : α → Bool) : List α :=
  pool.filter fun a => !seen a

theorem unseen_cons (u : α) (pool : List α) (seen : α → Bool) :
    unseen (u :: pool) seen = if seen u then unseen pool seen else u :: unseen pool seen := by
  cases h : seen u <;> simp [unseen, h]

theorem length_unseen_le (pool : List α) {seen seen' : α → Bool}
    (hmore : ∀ a, seen a = true → seen' a = true) :
    (unseen pool seen').length ≤ (unseen pool seen).length := by
  induction pool with
  | nil => exact Nat.le_refl _
  | cons u pool ih =>
    rw [unseen_cons, unseen_cons]
    by_cases h : seen u = true
    · rw [if_pos (hmore u h), if_pos h]
      exact ih
    · rw [if_neg h]
      split
      · exact Nat.le_succ_of_le ih
      · exact Nat.succ_le_succ ih

theorem length_unseen_lt {pool : List α} {seen seen' : α → Bool} {a : α}
    (hmore : ∀ a, seen a = true → seen' a = true) (ha : a ∈ pool) (hs : ¬seen a = true)
    (hs' : seen' a = true) :
    (unseen pool seen').length < (unseen pool seen).length := by
  induction pool with
  | nil => exact absurd ha List.not_mem_nil
  | cons u pool ih =>
    rw [unseen_cons, unseen_cons]
    by_cases h : u = a
    · subst h
      rw [if_pos hs', if_neg hs]
      exact Nat.lt_succ_of_le (length_unseen_le pool hmore)
    · have ha' : a ∈ pool := (List.mem_cons.mp ha).resolve_left (Ne.symm h)
      by_cases hm : seen u = true
      · rw [if_pos (hmore u hm), if_pos hm]
        exact ih ha'
      · rw [if_neg hm]
        split
        · exact Nat.lt_succ_of_lt (ih ha')
        · exact Nat.succ_lt_succ (ih ha')

variable [BEq α] [LawfulBEq α]

theorem length_unseen_append_le (pool seen : List α) (a : α) :
    (unseen pool (seen ++ [a]).contains).length ≤ (unseen pool seen.contains).length :=
  length_unseen_le pool fun b hb => by simp_all

theorem length_unseen_append_lt {pool seen : List α} {a : α} (ha : a ∈ pool) (hs : a ∉ seen) :
    (unseen pool (seen ++ [a]).contains).length < (unseen pool seen.contains).length :=
  length_unseen_lt (fun b hb => by simp_all) ha (by simpa using hs) (by simp)

end FlowDiagram
