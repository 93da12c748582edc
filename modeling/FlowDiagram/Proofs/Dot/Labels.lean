import FlowDiagram.Dot.Graph
import Mathlib.Data.List.Induction

/-!
# Labels can be quoted

A value cannot be quoted if its last character would escape the quote behind it, that is if an odd
number of backslashes stands at its end. A label is escaped before it is quoted, and escaping
doubles every backslash.

## Main definitions

* `Dot.endsEscaped`: whether what follows a text would be escaped.

`Dot.isQuotable_escapeLabel` says that every label can be quoted.
-/

namespace FlowDiagram.Dot

/-- Whether a character behind a text would be escaped; `escaped` says whether the first character
of the text is. -/
def endsEscaped (escaped : Bool) : Text → Bool
  | [] => escaped
  | c :: rest => endsEscaped (c = Text.backslash && !escaped) rest

theorem endsEscaped_append (escaped : Bool) (before behind : Text) :
    endsEscaped escaped (before ++ behind) = endsEscaped (endsEscaped escaped before) behind := by
  induction before generalizing escaped with
  | nil => rfl
  | cons c before ih => exact ih _

/-- A value can be quoted if it does not escape the closing quote. -/
theorem isQuotable_eq (value : Text) : isQuotable value = !endsEscaped false value := by
  induction value using List.reverseRecOn with
  | nil => rfl
  | append_singleton value c ih =>
    rw [endsEscaped_append]
    by_cases hc : c = Text.backslash
    · subst hc
      have hsucc : ∀ n : Nat, decide ((n + 1) % 2 = 0) = !decide (n % 2 = 0) := by
        intro n
        rcases Nat.mod_two_eq_zero_or_one n with h | h <;> simp [Nat.add_mod, h]
      simp only [isQuotable, List.reverse_append, List.reverse_singleton, List.singleton_append,
        List.takeWhile_cons_of_pos, decide_true, List.length_cons, hsucc] at ih ⊢
      simp [ih, endsEscaped]
    · simp [isQuotable, endsEscaped, hc]

theorem endsEscaped_escapeLabel (label : Text) : endsEscaped false (escapeLabel label) = false := by
  induction label with
  | nil => rfl
  | cons c label ih =>
    rw [escapeLabel, List.flatMap_cons, ← escapeLabel, endsEscaped_append]
    -- Every character is written by something that escapes nothing behind it.
    have hpiece : endsEscaped false
        (if c = Text.backslash || c = Text.doubleQuote then [.char Text.backslash, c]
          else if c = '\n' then "\\n" else [c]) = false := by
      split
      · simp [endsEscaped]
      · rename_i hc
        split
        · rfl
        · simp only [Bool.or_eq_true, decide_eq_true_eq, not_or] at hc
          simp [endsEscaped, hc.1]
    rw [hpiece, ih]

/-- A label can be quoted once it is escaped. -/
theorem isQuotable_escapeLabel (label : Text) : isQuotable (escapeLabel label) = true := by
  rw [isQuotable_eq, endsEscaped_escapeLabel, Bool.not_false]

/-- A label is on one line once it is escaped. -/
theorem newline_not_mem_escapeLabel (label : Text) : .char '\n' ∉ escapeLabel label := by
  intro h
  obtain ⟨c, -, hc⟩ := List.mem_flatMap.mp h
  split at hc
  · rename_i hescaped
    rcases List.mem_cons.mp hc with heq | hc
    · exact absurd heq (by decide)
    · rw [← List.mem_singleton.mp hc] at hescaped
      exact absurd hescaped (by decide)
  · split at hc
    · exact absurd hc (by decide)
    · rename_i hline
      exact hline (List.mem_singleton.mp hc).symm

end FlowDiagram.Dot
