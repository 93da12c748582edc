import FlowDiagram.Text.Basic

/-!
# Tables

A table keeps one value per key. Keys are listed in the order in which they first appeared, and a
later value takes the place of an earlier one.

## Main definitions

* `Table`: rows of a key and a value.
* `Table.insert`: adds a value under a key, replacing the one before.
* `Table.get?`: the value of a key.
-/

namespace FlowDiagram

/-- Values by name, in the order of their names' first appearance. -/
structure Table (α : Type) where
  rows : List (Text × α)

namespace Table

variable {α : Type}

/-- The table without rows. -/
def empty : Table α := ⟨[]⟩

/-- The keys, in order. -/
def keys (table : Table α) : List Text :=
  table.rows.map Prod.fst

/-- The values, in the order of their keys. -/
def values (table : Table α) : List α :=
  table.rows.map Prod.snd

/-- The value of a key. -/
def get? (table : Table α) (key : Text) : Option α :=
  table.rows.lookup key

/-- Puts a value under a key: in place of the value there, or in a new row at the end. -/
def insertRow (key : Text) (value : α) : List (Text × α) → List (Text × α)
  | [] => [(key, value)]
  | row :: rows => if row.1 = key then (key, value) :: rows else row :: insertRow key value rows

/-- Puts a value under a key. -/
def insert (table : Table α) (key : Text) (value : α) : Table α :=
  ⟨insertRow key value table.rows⟩

theorem mem_keys_of_get? {table : Table α} {key : Text} {value : α}
    (h : table.get? key = some value) : key ∈ table.keys := by
  obtain ⟨rows⟩ := table
  simp only [get?, keys] at h ⊢
  induction rows with
  | nil => simp at h
  | cons row rows ih =>
    obtain ⟨k, v⟩ := row
    rw [List.lookup_cons] at h
    by_cases hk : key = k
    · simp [hk]
    · have : (key == k) = false := by simpa using hk
      rw [this] at h
      simp only [List.map_cons, List.mem_cons]
      exact Or.inr (ih h)

end Table

end FlowDiagram
