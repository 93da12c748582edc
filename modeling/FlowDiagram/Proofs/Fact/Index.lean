import FlowDiagram.Fact.Index

/-!
# Lookups in the fact index

What an insertion into a table changes, what every fact found in an index built from facts has in
common with the key it is found under, and that supertypes are a matter of classes only.

## Main definitions

* `FactIndex.Keyed`: processors are found under the activity they work on.
-/

namespace FlowDiagram

namespace Table

variable {α : Type}

/-- A value is found under its key after it was put there; other keys are as before. -/
theorem get?_insert (table : Table α) (key : Text) (value : α) (other : Text) :
    (table.insert key value).get? other = if other = key then some value else table.get? other := by
  obtain ⟨rows⟩ := table
  simp only [insert, get?]
  induction rows with
  | nil =>
    by_cases hother : other = key
    · simp [insertRow, hother]
    · have hb : (other == key) = false := by simpa using hother
      simp [insertRow, List.lookup_cons, hb, hother]
  | cons row rows ih =>
    obtain ⟨k, v⟩ := row
    by_cases hk : k = key
    · subst hk
      by_cases hother : other = k
      · simp [insertRow, hother]
      · have hb : (other == k) = false := by simpa using hother
        simp [insertRow, List.lookup_cons, hb, hother]
    · rw [insertRow, if_neg hk, List.lookup_cons, List.lookup_cons, ih]
      by_cases hother : other = k
      · subst hother
        simp [hk]
      · have hb : (other == k) = false := by simpa using hother
        simp [hb]

end Table

namespace FactIndex

/-- Every processor is found under the activity it works on. -/
def Keyed (index : FactIndex) : Prop :=
  ∀ activity processor, index.processor? activity = some processor → processor.activity = activity

theorem keyed_empty : empty.Keyed := by
  intro activity processor h
  simp [processor?, empty, Table.get?, Table.empty] at h

theorem Keyed.addClass {index : FactIndex} (h : index.Keyed) (fact : ClassFact) :
    (index.addClass fact).Keyed :=
  h

theorem Keyed.addProcessor {index : FactIndex} (h : index.Keyed) (fact : ProcessorFact) :
    (index.addProcessor fact).Keyed := by
  intro activity processor hfound
  rw [processor?, FactIndex.addProcessor, Table.get?_insert] at hfound
  split at hfound
  · rename_i heq
    rw [← Option.some.inj hfound, heq]
  · exact h activity processor hfound

/-- The index of any facts finds processors under their activities. -/
theorem keyed_build (classes : List ClassFact) (processors : List ProcessorFact) :
    (build classes processors).Keyed := by
  have hclasses : (classes.foldl FactIndex.addClass empty).Keyed :=
    List.foldlRecOn classes FactIndex.addClass keyed_empty fun _ h fact _ => h.addClass fact
  exact List.foldlRecOn processors FactIndex.addProcessor hclasses fun _ h fact _ =>
    h.addProcessor fact

/-! ## Supertypes -/

section Supertypes

variable {index other : FactIndex} (h : index.class? = other.class?)

include h

/-- Only classes have supertypes. -/
theorem supertypes_congr : index.supertypes = other.supertypes := by
  have hresolve : index.resolve = other.resolve := by
    funext supertype
    rw [resolve, resolve, h]
  funext name
  rw [supertypes, supertypes, h, hresolve]

theorem searchSupertypes_congr (seen pending : List Name) :
    index.searchSupertypes seen pending = other.searchSupertypes seen pending := by
  fun_induction searchSupertypes index seen pending with
  | case1 seen => rw [searchSupertypes]
  | case2 seen supertype pending hseen ih => rw [searchSupertypes, if_pos hseen, ih]
  | case3 seen supertype pending hseen ih =>
    rw [searchSupertypes, if_neg hseen, ← supertypes_congr h, ih]

theorem hasSupertypeHolding_congr (text : Text) (name : Name) :
    index.hasSupertypeHolding text name = other.hasSupertypeHolding text name := by
  rw [hasSupertypeHolding, hasSupertypeHolding, supertypeChain, supertypeChain,
    searchSupertypes_congr h, supertypes_congr h]

end Supertypes

end FactIndex

end FlowDiagram
