/-!
# Distinct members

The members of a list without repetition, in the order of their first appearance.

## Main definitions

* `distinct`: a list without its repetitions.
-/

namespace FlowDiagram

variable {α : Type} [DecidableEq α]

/-- Keeps the first of equal members. -/
def distinct : List α → List α
  | [] => []
  | a :: as => a :: (distinct as).filter (· ≠ a)

@[simp] theorem mem_distinct {a : α} {as : List α} : a ∈ distinct as ↔ a ∈ as := by
  induction as with
  | nil => simp [distinct]
  | cons b bs ih =>
    by_cases h : a = b <;> simp [distinct, ih, h]

theorem nodup_distinct (as : List α) : (distinct as).Nodup := by
  induction as with
  | nil => exact List.nodup_nil
  | cons b bs ih =>
    refine List.nodup_cons.mpr ⟨by simp, ih.filter _⟩

theorem distinct_perm {as bs : List α} (h : as.Perm bs) : (distinct as).Perm (distinct bs) := by
  rw [List.perm_ext_iff_of_nodup (nodup_distinct as) (nodup_distinct bs)]
  intro a
  rw [mem_distinct, mem_distinct, h.mem_iff]

theorem distinct_concat (as : List α) (a : α) :
    distinct (as ++ [a]) = if a ∈ as then distinct as else distinct as ++ [a] := by
  induction as with
  | nil => simp [distinct]
  | cons b bs ih =>
    rw [List.cons_append, distinct, ih]
    by_cases hab : a = b
    · subst hab
      by_cases ha : a ∈ bs <;> simp [ha, distinct, List.filter_append]
    · by_cases ha : a ∈ bs <;> simp [ha, hab, distinct, List.filter_append]

theorem distinct_append (as bs : List α) :
    distinct (as ++ bs) = distinct as ++ (distinct bs).filter (· ∉ as) := by
  induction as with
  | nil => exact (List.filter_eq_self.mpr fun b _ => by simp).symm
  | cons a as ih =>
    simp only [List.cons_append, distinct, ih, List.filter_append, List.filter_filter]
    congr 2
    exact List.filter_congr fun b _ => by simp [List.mem_cons]

theorem distinct_eq_singleton {as : List α} {a : α} (hne : as ≠ []) (h : ∀ b ∈ as, b = a) :
    distinct as = [a] := by
  cases as with
  | nil => exact absurd rfl hne
  | cons b bs =>
    obtain ⟨rfl, hbs⟩ := List.forall_mem_cons.mp h
    have hrest : (distinct bs).filter (· ≠ b) = [] :=
      List.filter_eq_nil_iff.mpr fun c hc => by simp [hbs c (mem_distinct.mp hc)]
    rw [distinct, hrest]

theorem distinct_filter (p : α → Bool) (as : List α) :
    distinct (as.filter p) = (distinct as).filter p := by
  induction as with
  | nil => rfl
  | cons a as ih =>
    by_cases ha : p a = true
    · rw [List.filter_cons_of_pos ha, distinct, distinct, List.filter_cons_of_pos ha, ih,
        List.filter_filter, List.filter_filter]
      simp only [Bool.and_comm]
    · rw [List.filter_cons_of_neg ha, distinct, List.filter_cons_of_neg ha, ih, List.filter_filter]
      refine List.filter_congr fun b _ => ?_
      by_cases hb : b = a
      · simp [hb, ha]
      · simp [hb]

/-- Repetitions may be left out before a function is applied. -/
theorem distinct_map_distinct {β : Type} [DecidableEq β] (f : α → β) (as : List α) :
    distinct ((distinct as).map f) = distinct (as.map f) := by
  induction as with
  | nil => rfl
  | cons a as ih =>
    -- Of the items that are not left out, those with the image of the first go anyway.
    have hrest : (((distinct as).filter (· ≠ a)).map f).filter (· ≠ f a) =
        ((distinct as).map f).filter (· ≠ f a) := by
      rw [List.filter_map, List.filter_map, List.filter_filter]
      congr 1
      refine List.filter_congr fun b _ => ?_
      by_cases hb : b = a <;> simp [hb]
    rw [distinct, List.map_cons, List.map_cons, distinct, distinct, ← ih, ← distinct_filter, hrest,
      distinct_filter]

theorem distinct_eq_self {as : List α} (h : as.Nodup) : distinct as = as := by
  induction as with
  | nil => rfl
  | cons a as ih =>
    obtain ⟨ha, has⟩ := List.nodup_cons.mp h
    rw [distinct, ih has]
    congr 1
    refine List.filter_eq_self.mpr fun b hb => decide_eq_true ?_
    rintro rfl
    exact ha hb

/-- Parts that have a key each and are put together are told apart by their keys. -/
theorem filter_flatMap_of_nodup {β : Type} {keys : List α} {part : α → List β} {key : β → α}
    (hnodup : keys.Nodup) (hkey : ∀ a, ∀ b ∈ part a, key b = a) {a : α} (h : a ∈ keys) :
    (keys.flatMap part).filter (key · = a) = part a := by
  have hown : (part a).filter (key · = a) = part a :=
    List.filter_eq_self.mpr fun b hb => decide_eq_true (hkey a b hb)
  have hother : ∀ other, other ≠ a → (part other).filter (key · = a) = [] := by
    intro other hne
    refine List.filter_eq_nil_iff.mpr fun b hb hdec => hne ?_
    rw [← hkey other b hb, of_decide_eq_true hdec]
  induction keys with
  | nil => exact absurd h List.not_mem_nil
  | cons first keys ih =>
    obtain ⟨hnew, hnodup⟩ := List.nodup_cons.mp hnodup
    rw [List.flatMap_cons, List.filter_append]
    rcases List.mem_cons.mp h with rfl | h
    · have hrest : (keys.flatMap part).filter (key · = a) = [] := by
        rw [List.filter_flatMap]
        refine List.flatMap_eq_nil_iff.mpr fun other hmem => hother other ?_
        rintro rfl
        exact hnew hmem
      rw [hrest, List.append_nil, hown]
    · rw [hother first fun heq => hnew (heq ▸ h), List.nil_append]
      exact ih hnodup h

end FlowDiagram
