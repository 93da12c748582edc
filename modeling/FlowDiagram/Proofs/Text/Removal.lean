import FlowDiagram.Text.Edit

/-!
# Deleting a token

Deleting the occurrences of a token goes through a text once. What it leaves is a relation with one
case for each turn: at an occurrence the token goes, and elsewhere a character stays.

## Main definitions

* `Removed`: what is left of a text when a token is deleted.

`removed_removeAll` and `removeAll_eq_self_iff` are the main results.
-/

namespace FlowDiagram.Text

variable {token text left : Text}

/-- What is left of a text when the occurrences of a token are deleted from left to right. -/
inductive Removed (token : Text) : Text → Text → Prop
  | nil : Removed token [] []
  | delete {text left : Text} : Removed token text left → Removed token (token ++ text) left
  | keep {c : CodePoint} {text left : Text} :
      ¬token <+: c :: text → Removed token text left → Removed token (c :: text) (c :: left)

theorem removeFrom_eq_drop (token : Text) (skip : Nat) (text : Text) :
    removeFrom token skip text = removeFrom token 0 (text.drop skip) := by
  induction text generalizing skip with
  | nil => simp [removeFrom]
  | cons c rest ih =>
    cases skip with
    | zero => rfl
    | succ skip => rw [removeFrom, ih, List.drop_succ_cons]

theorem removeFrom_append (htoken : token ≠ []) (text : Text) :
    removeFrom token 0 (token ++ text) = removeFrom token 0 text := by
  obtain ⟨c, rest, rfl⟩ := List.exists_cons_of_ne_nil htoken
  have hopens : (c :: rest).isPrefixOf (c :: (rest ++ text)) = true :=
    List.isPrefixOf_iff_prefix.mpr (List.prefix_append (c :: rest) text)
  rw [List.cons_append, removeFrom, if_pos hopens, removeFrom_eq_drop]
  simp

/-- The loop that deletes a token leaves what the relation says. -/
theorem removed_removeFrom (htoken : token ≠ []) (text : Text) :
    Removed token text (removeFrom token 0 text) := by
  induction hlength : text.length using Nat.strongRecOn generalizing text with
  | ind n ih =>
    by_cases hopens : token <+: text
    · obtain ⟨rest, rfl⟩ := hopens
      have hshorter : rest.length < n := by
        have := List.length_pos_iff.mpr htoken
        rw [← hlength, List.length_append]
        omega
      rw [removeFrom_append htoken]
      exact .delete (ih rest.length hshorter rest rfl)
    · cases text with
      | nil => exact .nil
      | cons c rest =>
        have hshorter : rest.length < n := by
          rw [← hlength, List.length_cons]
          exact Nat.lt_succ_self _
        rw [removeFrom, if_neg (mt List.isPrefixOf_iff_prefix.mp hopens)]
        exact .keep hopens (ih rest.length hshorter rest rfl)

theorem removed_removeAll (htoken : token ≠ []) (text : Text) :
    Removed token text (removeAll token text) := by
  rw [removeAll, if_neg (by simpa using htoken)]
  exact removed_removeFrom htoken text

namespace Removed

theorem sublist (h : Removed token text left) : left.Sublist text := by
  induction h with
  | nil => exact .slnil
  | delete _ ih => exact ih.trans (List.sublist_append_right _ _)
  | keep _ _ ih => exact ih.cons_cons _

theorem length_lt (htoken : token ≠ []) (h : Removed token text left) (hwithin : token <:+: text) :
    left.length < text.length := by
  induction h with
  | nil => exact absurd (List.infix_nil.mp hwithin) htoken
  | delete h _ =>
    have := h.sublist.length_le
    have := List.length_pos_iff.mpr htoken
    rw [List.length_append]
    omega
  | keep hnot _ ih =>
    have hrest := (List.infix_cons_iff.mp hwithin).resolve_left hnot
    rw [List.length_cons, List.length_cons]
    exact Nat.succ_lt_succ (ih hrest)

theorem eq_self_of_absent (h : Removed token text left) (hnot : ¬token <:+: text) : left = text := by
  induction h with
  | nil => rfl
  | delete _ _ => exact absurd (List.prefix_append _ _).isInfix hnot
  | keep _ _ ih =>
    exact congrArg (List.cons _) (ih fun hwithin => hnot (List.infix_cons hwithin))

end Removed

theorem removeAll_sublist (token text : Text) : (removeAll token text).Sublist text := by
  by_cases htoken : token = []
  · simp [htoken]
  · exact (removed_removeAll htoken text).sublist

/-- Deleting a token keeps exactly the texts without it. -/
theorem removeAll_eq_self_iff (htoken : token ≠ []) :
    removeAll token text = text ↔ ¬token <:+: text := by
  have h := removed_removeAll htoken text
  constructor
  · intro hself hwithin
    have := h.length_lt htoken hwithin
    rw [hself] at this
    exact absurd this (Nat.lt_irrefl _)
  · exact h.eq_self_of_absent

end FlowDiagram.Text
