import Mathlib.Logic.Relation

/-!
# Loops, turn by turn

A loop is a relation between its states before and after a turn. It comes to an end if every turn
lowers a rank, and what it ends with is the value of a function of the state if no turn changes this
value. A loop that has at most one turn to take in each state ends in one state only.

`reflTransGen_iff_of_turn` and `ends_of_deterministic` say so.
-/

namespace FlowDiagram

open Relation

variable {σ ρ : Type} {turn : σ → σ → Prop}

/-- A loop ends if every turn lowers a pair of numbers. -/
theorem acc_of_rank (rank : σ → Nat × Nat)
    (hrank : ∀ state next, turn state next →
      Prod.Lex (· < ·) (· < ·) (rank next) (rank state)) (state : σ) : Acc (flip turn) state :=
  (Subrelation.wf (fun h => hrank _ _ h)
    (InvImage.wf rank (Prod.lex Nat.lt_wfRel Nat.lt_wfRel).wf)).apply state

/-- A loop that has a turn to take in every state that is not final, and whose turns do not change
the result, ends with this result. -/
theorem reflTransGen_iff_of_turn {result : σ → ρ} (final : ρ → σ)
    (hacc : ∀ state, Acc (flip turn) state)
    (hkept : ∀ state next, turn state next → result state = result next)
    (hfinal : ∀ value, result (final value) = value)
    (hturn : ∀ state, (∃ value, state = final value) ∨ ∃ next, turn state next) {state : σ}
    {value : ρ} :
    ReflTransGen turn state (final value) ↔ value = result state := by
  constructor
  · intro h
    have hsame : result (final value) = result state := by
      refine ReflTransGen.head_induction_on
        (motive := fun s _ => result (final value) = result s) h rfl ?_
      intro s next hnext _ ih
      rw [ih, hkept s next hnext]
    rw [← hsame, hfinal]
  · rintro rfl
    induction hacc state with
    | intro state _ ih =>
      rcases hturn state with ⟨value, rfl⟩ | ⟨next, hnext⟩
      · rw [hfinal]
      · rw [hkept state next hnext]
        exact .head hnext (ih next hnext)

/-- A loop with at most one turn to take in each state comes to an end if some run of it does, and
it ends there only. -/
theorem ends_of_deterministic
    (hsingle : ∀ state next other, turn state next → turn state other → next = other)
    {state final : σ} (hrun : ReflTransGen turn state final) (hstuck : ∀ next, ¬turn final next) :
    Acc (flip turn) state ∧
      ∀ last, ReflTransGen turn state last → (∀ next, ¬turn last next) → last = final := by
  refine ReflTransGen.head_induction_on (motive := fun s _ => Acc (flip turn) s ∧
    ∀ last, ReflTransGen turn s last → (∀ next, ¬turn last next) → last = final) hrun ?_ ?_
  · refine ⟨.intro _ fun next hnext => absurd hnext (hstuck next), fun last hlast _ => ?_⟩
    rcases hlast.cases_head with heq | ⟨next, hnext, -⟩
    · exact heq.symm
    · exact absurd hnext (hstuck next)
  · intro state next hnext _ ih
    refine ⟨.intro _ fun other hother => ?_, fun last hlast hend => ?_⟩
    · rw [hsingle state other next hother hnext]
      exact ih.1
    · rcases hlast.cases_head with rfl | ⟨other, hother, hlast⟩
      · exact absurd hnext (hend next)
      · rw [hsingle state other next hother hnext] at hlast
        exact ih.2 last hlast hend

end FlowDiagram
