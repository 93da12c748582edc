import FlowDiagram.Fact.Index
import FlowDiagram.Proofs.Text.Order
import Mathlib.Data.List.Nodup

/-!
# Entry points

An index lists every class once, under its name. So the classes that start a flow have different
names, and there is one order only in which they are sorted.

## Main definitions

* `FactIndex.ClassesByName`: the classes of an index are listed once each, under their names.

`FactIndex.ClassesByName.pairwise_entryPoints` is the main result.
-/

namespace FlowDiagram

namespace Table

variable {α : Type}

/-- Putting a value under a key adds the key at the end, unless it is there already. -/
theorem map_fst_insertRow (key : Text) (value : α) (rows : List (Text × α)) :
    (insertRow key value rows).map Prod.fst =
      if key ∈ rows.map Prod.fst then rows.map Prod.fst else rows.map Prod.fst ++ [key] := by
  induction rows with
  | nil => rfl
  | cons row rows ih =>
    by_cases hkey : row.1 = key
    · simp [insertRow, hkey]
    · rw [insertRow, if_neg hkey, List.map_cons, ih]
      by_cases hmem : key ∈ rows.map Prod.fst <;> simp [hmem, Ne.symm hkey]

theorem nodup_keys_insert {table : Table α} (h : table.keys.Nodup) (key : Text) (value : α) :
    (table.insert key value).keys.Nodup := by
  rw [keys, insert, map_fst_insertRow]
  split
  · exact h
  · rename_i hnew
    rw [← List.concat_eq_append]
    exact h.concat hnew

theorem mem_rows_insert {table : Table α} {key : Text} {value : α} {row : Text × α}
    (h : row ∈ (table.insert key value).rows) : row = (key, value) ∨ row ∈ table.rows := by
  obtain ⟨rows⟩ := table
  simp only [insert] at h ⊢
  induction rows with
  | nil => exact Or.inl (List.mem_singleton.mp h)
  | cons first rows ih =>
    rw [insertRow] at h
    split at h
    · exact (List.mem_cons.mp h).imp_right (List.mem_cons_of_mem first)
    · rcases List.mem_cons.mp h with rfl | h
      · exact Or.inr List.mem_cons_self
      · exact (ih h).imp_right (List.mem_cons_of_mem first)

end Table

namespace FactIndex

/-- Every class is listed once, under its name. -/
structure ClassesByName (index : FactIndex) : Prop where
  nodup : index.classes.keys.Nodup
  name_eq : ∀ row ∈ index.classes.rows, row.2.name = row.1

theorem ClassesByName.addClass {index : FactIndex} (h : index.ClassesByName) (fact : ClassFact) :
    (index.addClass fact).ClassesByName where
  nodup := Table.nodup_keys_insert h.nodup fact.name fact
  name_eq row hrow := by
    rcases Table.mem_rows_insert hrow with rfl | hrow
    · rfl
    · exact h.name_eq row hrow

theorem ClassesByName.addProcessor {index : FactIndex} (h : index.ClassesByName)
    (fact : ProcessorFact) : (index.addProcessor fact).ClassesByName :=
  ⟨h.nodup, h.name_eq⟩

/-- The index of any facts lists every class once, under its name. -/
theorem classesByName_build (classes : List ClassFact) (processors : List ProcessorFact) :
    (build classes processors).ClassesByName := by
  have hempty : empty.ClassesByName := ⟨List.nodup_nil, fun _ h => absurd h List.not_mem_nil⟩
  have hclasses : (classes.foldl FactIndex.addClass empty).ClassesByName :=
    List.foldlRecOn classes FactIndex.addClass hempty fun _ h fact _ => h.addClass fact
  exact List.foldlRecOn processors FactIndex.addProcessor hclasses fun _ h fact _ =>
    h.addProcessor fact

namespace ClassesByName

variable {index : FactIndex}

theorem map_name_values (h : index.ClassesByName) :
    index.classes.values.map ClassFact.name = index.classes.keys := by
  rw [Table.values, Table.keys, List.map_map]
  exact List.map_congr_left h.name_eq

/-- Classes that are selected from an index have different names. -/
theorem nodup_map_name (h : index.ClassesByName) {selected : List ClassFact}
    (hselected : selected.Sublist index.classes.values) :
    (selected.map ClassFact.name).Nodup := by
  refine List.Nodup.sublist (hselected.map ClassFact.name) ?_
  rw [h.map_name_values]
  exact h.nodup

/-- The classes that start a flow are sorted strictly by their names. -/
theorem pairwise_entryPoints (h : index.ClassesByName) (supertype : Option Text) :
    (index.entryPoints supertype).Pairwise fun a b => a.name < b.name := by
  unfold entryPoints
  refine pairwise_lt_sort (h.nodup_map_name ?_)
  split
  · exact List.filter_sublist
  · split
    · exact List.filter_sublist
    · exact List.filter_sublist.trans List.filter_sublist

end ClassesByName

end FactIndex

end FlowDiagram
