import FlowDiagram.Text.Basic

/-!
# The order of texts

Code points are ordered by their numbers, and no two have the same number. Texts are ordered like
words in a dictionary, code point by code point, and lists of texts text by text. These are linear
orders, so items can be sorted by such keys, and in one way only if no two of them have the same
key.

`pairwise_lt_sort` and `sort_eq_of_perm` are about sorting by keys.
-/

namespace FlowDiagram

namespace CodePoint

/-- Code points are told apart by their numbers: no character has the number of a surrogate. -/
theorem eq_of_toNat_eq {a b : CodePoint} (h : a.toNat = b.toNat) : a = b := by
  have hchar : ∀ (c : Char) (offset : Fin 2048), c.toNat ≠ firstSurrogate + offset := by
    intro c offset heq
    have hvalid : c.toNat < 0xD800 ∨ 0xDFFF < c.toNat ∧ c.toNat < 0x110000 := c.valid
    have hoffset := offset.isLt
    rw [firstSurrogate] at heq
    omega
  cases a with
  | char c =>
    cases b with
    | char d => rw [Char.toNat_inj.mp h]
    | surrogate offset => exact absurd h (hchar c offset)
  | surrogate offset =>
    cases b with
    | char d => exact absurd h.symm (hchar d offset)
    | surrogate other => rw [Fin.ext (Nat.add_left_cancel h)]

instance : LE CodePoint := ⟨fun a b => a.toNat ≤ b.toNat⟩

instance : Std.IsLinearOrder CodePoint where
  le_refl a := Nat.le_refl a.toNat
  le_trans _ _ _ := Nat.le_trans
  le_antisymm _ _ h h' := eq_of_toNat_eq (Nat.le_antisymm h h')
  le_total a b := Nat.le_total a.toNat b.toNat

instance : Std.LawfulOrderLT CodePoint := ⟨fun _ _ => Nat.lt_iff_le_and_not_ge⟩

end CodePoint

/-! ## Sorting by keys -/

section ByKey

variable {α κ : Type} [LE κ] [DecidableLE κ] [Std.IsLinearOrder κ] {key : α → κ} {items : List α}

theorem pairwise_le_sort (key : α → κ) (items : List α) :
    (items.mergeSort fun a b => decide (key a ≤ key b)).Pairwise fun a b => key a ≤ key b := by
  have htrans : ∀ a b c, decide (key a ≤ key b) = true → decide (key b ≤ key c) = true →
      decide (key a ≤ key c) = true := fun a b c hab hbc =>
    decide_eq_true (Std.le_trans (of_decide_eq_true hab) (of_decide_eq_true hbc))
  have htotal : ∀ a b, (decide (key a ≤ key b) || decide (key b ≤ key a)) = true := by
    intro a b
    rw [Bool.or_eq_true, decide_eq_true_eq, decide_eq_true_eq]
    exact Std.le_total
  exact (List.pairwise_mergeSort htrans htotal items).imp of_decide_eq_true

variable [LT κ] [Std.LawfulOrderLT κ]

/-- Items whose keys differ are sorted strictly. -/
theorem pairwise_lt_sort (hnodup : (items.map key).Nodup) :
    (items.mergeSort fun a b => decide (key a ≤ key b)).Pairwise fun a b => key a < key b := by
  have hperm := List.mergeSort_perm items fun a b => decide (key a ≤ key b)
  have hne : (items.mergeSort fun a b => decide (key a ≤ key b)).Pairwise
      fun a b => key a ≠ key b :=
    List.pairwise_map.mp ((hperm.map key).nodup_iff.mpr hnodup)
  exact ((pairwise_le_sort key items).and hne).imp fun h => Std.lt_of_le_of_ne h.1 h.2

/-- There is one way only to sort items whose keys differ. -/
theorem sort_eq_of_perm {sorted : List α} (hperm : items.Perm sorted)
    (hsorted : sorted.Pairwise fun a b => key a < key b) :
    (items.mergeSort fun a b => decide (key a ≤ key b)) = sorted := by
  have hnodup : (items.map key).Nodup := by
    refine (hperm.map key).nodup_iff.mpr (List.pairwise_map.mpr (hsorted.imp fun h heq => ?_))
    exact Std.lt_irrefl (heq ▸ h)
  refine List.Perm.eq_of_pairwise (fun a b _ _ hab hba => ?_) (pairwise_lt_sort hnodup) hsorted
    ((List.mergeSort_perm _ _).trans hperm)
  exact absurd (Std.lt_trans hab hba) Std.lt_irrefl

end ByKey

end FlowDiagram
