import FlowDiagram.Proofs.Fact.Supertypes
import FlowDiagram.Proofs.Fact.Winners

/-!
# The selection of entry points

The classes that start a flow can be narrowed down to those with a supertype whose name holds a
text. It does not matter whether classes are selected before or after they are sorted, so a longer
text leaves fewer classes and changes nothing in their order.

`FactIndex.ClassesByName.entryPoints_eq_filter` says this, and
`FactIndex.selects_by_supertypes` what is selected.
-/

namespace FlowDiagram

open Relation

/-- A class starts a flow if it names an initial activity. -/
theorem ClassFact.isEntryPoint_iff {fact : ClassFact} :
    fact.isEntryPoint = true ↔ ∃ activity ≠ [], fact.initialActivity = some activity := by
  rw [isEntryPoint, entry?, Option.isSome_iff_exists]
  simp [and_comm]

namespace FactIndex

variable {index : FactIndex}

/-- A supertype of a class holds a text if some links lead to such a name, other than the class. -/
theorem hasSupertypeHolding_iff {text : Text} {name : Name} :
    index.hasSupertypeHolding text name = true ↔
      ∃ supertype, supertype ≠ name ∧ TransGen (Inherits index) name supertype ∧
        text <:+: supertype := by
  rw [hasSupertypeHolding, List.any_eq_true]
  simp only [(nearestFirst_supertypeChain index name).mem_iff, Text.occurs_iff_isInfix, and_assoc]

/-- Of two texts the longer one selects less. -/
theorem hasSupertypeHolding_of_isInfix {part text : Text} (hpart : part <:+: text) {name : Name}
    (h : index.hasSupertypeHolding text name = true) :
    index.hasSupertypeHolding part name = true := by
  obtain ⟨supertype, hne, hpath, htext⟩ := hasSupertypeHolding_iff.mp h
  exact hasSupertypeHolding_iff.mpr ⟨supertype, hne, hpath, hpart.trans htext⟩

theorem entryPoints_of_ne_nil {text : Text} (htext : text ≠ []) :
    index.entryPoints (some text) =
      ((index.classes.values.filter (·.isEntryPoint)).filter fun fact =>
        index.hasSupertypeHolding text fact.name).mergeSort
          fun a b => decide (a.name ≤ b.name) := by
  have hsome : text.isEmpty = false := by simpa using htext
  simp only [entryPoints, hsome, Bool.false_eq_true, if_false]

/-- The empty text selects nothing away. -/
theorem entryPoints_nil : index.entryPoints (some []) = index.entryPoints none :=
  rfl

namespace ClassesByName

/-- Classes may be sorted before they are selected. -/
theorem entryPoints_eq_filter (h : index.ClassesByName) {text : Text} (htext : text ≠ []) :
    index.entryPoints (some text) =
      (index.entryPoints none).filter fun fact => index.hasSupertypeHolding text fact.name := by
  rw [entryPoints_of_ne_nil htext]
  refine sort_eq_of_perm ?_ ((h.pairwise_entryPoints none).filter _)
  exact (List.mergeSort_perm _ _).symm.filter _

theorem mem_entryPoints_none_iff (h : index.ClassesByName) {fact : ClassFact} :
    fact ∈ index.entryPoints none ↔
      index.class? fact.name = some fact ∧
        ∃ activity ≠ [], fact.initialActivity = some activity := by
  simp only [entryPoints, List.mem_mergeSort, List.mem_filter, h.mem_values_iff,
    ClassFact.isEntryPoint_iff]

/-- What a text selects, a part of it selects, too. -/
theorem sublist_entryPoints (h : index.ClassesByName) {text part : Text} (htext : text ≠ [])
    (hpart : part <:+: text) :
    (index.entryPoints (some text)).Sublist (index.entryPoints (some part)) := by
  rw [h.entryPoints_eq_filter htext]
  by_cases hempty : part = []
  · rw [hempty, entryPoints_nil]
    exact List.filter_sublist
  · rw [h.entryPoints_eq_filter hempty]
    exact List.monotone_filter_right _ fun fact hfact => hasSupertypeHolding_of_isInfix hpart hfact

end ClassesByName

/-- The search for the supertypes of a class ends on any index, and it lists them nearest first.
With a text, the classes are selected that start a flow and have a supertype that holds the text,
sorted by their names; a part of the text selects the same classes and maybe more. -/
theorem selects_by_supertypes (index : FactIndex) :
    (∀ name,
      Acc (flip (Turn index)) ([name], index.supertypes name) ∧
        (∀ seen, ReflTransGen (Turn index) ([name], index.supertypes name) (seen, []) ↔
          seen = name :: index.supertypeChain name) ∧
        NearestFirst index name (index.supertypeChain name)) ∧
    (index.ClassesByName → ∀ text : Text, text ≠ [] →
      (index.entryPoints (some text)).Pairwise (fun a b => a.name < b.name) ∧
        (∀ fact, fact ∈ index.entryPoints (some text) ↔
          index.class? fact.name = some fact ∧
            (∃ activity ≠ [], fact.initialActivity = some activity) ∧
            ∃ supertype, supertype ≠ fact.name ∧
              TransGen (Inherits index) fact.name supertype ∧ text <:+: supertype) ∧
        ∀ part, part <:+: text →
          (index.entryPoints (some text)).Sublist (index.entryPoints (some part))) := by
  constructor
  · intro name
    refine ⟨acc_turn index _, fun seen => ?_, nearestFirst_supertypeChain index name⟩
    rw [turns_iff, searchSupertypes_eq_cons]
  · intro h text htext
    refine ⟨h.pairwise_entryPoints _, fun fact => ?_, fun part => h.sublist_entryPoints htext⟩
    rw [h.entryPoints_eq_filter htext, List.mem_filter, h.mem_entryPoints_none_iff,
      hasSupertypeHolding_iff, and_assoc]

/-- A class that inherits from itself and, under a longer name, from another one. -/
def parcel : ClassFact where
  name := "Parcel"
  sourceLocation := none
  supertypeNames := ["Parcel", "base.Flow"]
  initialActivity := some "Start"
  name_ne_empty := by decide

/-- A class that inherits from the first one and from a class that is not indexed. -/
def flow : ClassFact where
  name := "Flow"
  sourceLocation := none
  supertypeNames := ["Parcel", "org.base.Root"]
  initialActivity := none
  name_ne_empty := by decide

theorem inherits_parcel_flow : Inherits (build [parcel, flow] []) "Parcel" "Flow" :=
  ⟨parcel, by decide, "base.Flow", by decide,
    Or.inr ⟨by decide, by decide, Or.inr ⟨"base", by decide⟩⟩⟩

theorem inherits_flow_root : Inherits (build [parcel, flow] []) "Flow" "Root" :=
  ⟨flow, by decide, "org.base.Root", by decide,
    Or.inr ⟨by decide, by decide, Or.inr ⟨"org.base", by decide⟩⟩⟩

/-- A class is selected by a part of a name that two links lead to, the first one in a circle. -/
theorem mem_entryPoints_build :
    (build [parcel, flow] []).ClassesByName ∧ ("oo" : Text) ≠ [] ∧
      parcel ∈ (build [parcel, flow] []).entryPoints (some "oo") := by
  have hindex := classesByName_build [parcel, flow] []
  have hpath : TransGen (Inherits (build [parcel, flow] [])) parcel.name "Root" :=
    .tail (.single inherits_parcel_flow) inherits_flow_root
  have hselected := (selects_by_supertypes (build [parcel, flow] [])).2 hindex "oo" (by decide)
  refine ⟨hindex, by decide, (hselected.2.1 parcel).mpr ⟨by decide, ⟨"Start", by decide, rfl⟩, ?_⟩⟩
  exact ⟨"Root", by decide, hpath, ⟨"R", "t", by decide⟩⟩

end FactIndex

end FlowDiagram
