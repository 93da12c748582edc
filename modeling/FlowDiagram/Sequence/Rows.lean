import FlowDiagram.Sequence.Distinct

/-!
# Rows that are collected

A loop over items keeps a row for every key that it has come to, in the order in which the keys have
come, and every item changes the row of its key. A new key starts a row at the end.

## Main definitions

* `changeRow`: changes the row of a key.
* `collectRows`: the rows that a loop over items leaves.
* `groupsBy`: the items of every key.

`collectRows_eq` says without the loop what is left: a row for each distinct key, with what the
items of this key alone have made of it.
-/

namespace FlowDiagram

variable {κ α β : Type} [DecidableEq κ]

/-- Changes the value in the row of a key. A key without a row gets one at the end, and then it is
the start value that is changed. -/
def changeRow (key : κ) (start : β) (change : β → β) : List (κ × β) → List (κ × β)
  | [] => [(key, change start)]
  | row :: rows =>
    if row.1 = key then (row.1, change row.2) :: rows
    else row :: changeRow key start change rows

/-- The rows that are left when every item has changed the row of its key. -/
def collectRows (key : α → κ) (start : β) (add : α → β → β) (items : List α) : List (κ × β) :=
  items.foldl (fun rows item => changeRow (key item) start (add item) rows) []

/-- The items of every key. -/
def groupsBy (key : α → κ) (items : List α) : List (κ × List α) :=
  collectRows key [] (fun item group => group ++ [item]) items

/-- Among rows of distinct keys, the row of a key is changed in its place, or it is new. -/
theorem changeRow_map {keys : List κ} (hkeys : keys.Nodup) (value : κ → β) (key : κ) (start : β)
    (change : β → β) :
    changeRow key start change (keys.map fun k => (k, value k)) =
      (keys.map fun k => (k, if k = key then change (value k) else value k)) ++
        if key ∈ keys then [] else [(key, change start)] := by
  induction keys with
  | nil => simp [changeRow]
  | cons k keys ih =>
    obtain ⟨hk, hkeys⟩ := List.nodup_cons.mp hkeys
    rw [List.map_cons, changeRow]
    by_cases hkk : k = key
    · subst hkk
      have hsame : (keys.map fun k' => (k', if k' = k then change (value k') else value k')) =
          keys.map fun k' => (k', value k') := by
        refine List.map_congr_left fun k' hk' => ?_
        rw [if_neg]
        rintro rfl
        exact hk hk'
      simp [hsame]
    · rw [if_neg hkk, ih hkeys]
      simp [hkk, Ne.symm hkk]

section

variable (key : α → κ) (start : β) (add : α → β → β)

/-- What the items of a key make of its row. -/
def rowOf (items : List α) (k : κ) : β :=
  (items.filter (key · = k)).foldl (fun value item => add item value) start

/-- One more item changes the row of its own key. -/
theorem rowOf_concat (items : List α) (item : α) (k : κ) :
    rowOf key start add (items ++ [item]) k =
      if k = key item then add item (rowOf key start add items k)
      else rowOf key start add items k := by
  rw [rowOf, rowOf, List.filter_append, List.foldl_append]
  by_cases hk : k = key item
  · simp [hk]
  · simp [hk, Ne.symm hk]

/-- A key that no item has is at the start. -/
theorem rowOf_of_not_mem {items : List α} {k : κ} (h : k ∉ items.map key) :
    rowOf key start add items k = start := by
  have hnone : items.filter (key · = k) = [] :=
    List.filter_eq_nil_iff.mpr fun item hitem hkey =>
      h (List.mem_map.mpr ⟨item, hitem, of_decide_eq_true hkey⟩)
  rw [rowOf, hnone, List.foldl_nil]

/-- What one turn of the loop preserves: there is a row for each distinct key so far, with what the
items so far have made of it. -/
theorem changeRow_rowOf (items : List α) (item : α) :
    changeRow (key item) start (add item)
        ((distinct (items.map key)).map fun k => (k, rowOf key start add items k)) =
      (distinct ((items ++ [item]).map key)).map fun k =>
        (k, rowOf key start add (items ++ [item]) k) := by
  rw [changeRow_map (nodup_distinct _), List.map_append, List.map_singleton, distinct_concat]
  simp only [rowOf_concat, mem_distinct]
  by_cases hmem : key item ∈ items.map key
  · rw [if_pos hmem, if_pos hmem, List.append_nil]
  · rw [if_neg hmem, if_neg hmem, List.map_append, List.map_singleton, if_pos rfl,
      rowOf_of_not_mem key start add hmem]

/-- What the whole loop leaves, when it goes on with rows that were collected. -/
theorem foldl_changeRow (before items : List α) :
    items.foldl (fun rows item => changeRow (key item) start (add item) rows)
        ((distinct (before.map key)).map fun k => (k, rowOf key start add before k)) =
      (distinct ((before ++ items).map key)).map fun k =>
        (k, rowOf key start add (before ++ items) k) := by
  induction items generalizing before with
  | nil => rw [List.foldl_nil, List.append_nil]
  | cons item items ih =>
    rw [List.foldl_cons, changeRow_rowOf, ih, List.append_assoc, List.singleton_append]

/-- The loop leaves a row for each distinct key, with what the items of this key alone have made
of it. -/
theorem collectRows_eq (items : List α) :
    collectRows key start add items =
      (distinct (items.map key)).map fun k => (k, rowOf key start add items k) :=
  foldl_changeRow key start add [] items

end

/-- A row to which each item of the key adds one member holds these members in order. -/
theorem rowOf_members {γ : Type} (key : α → κ) (member : α → γ) (items : List α) (k : κ) :
    rowOf key [] (fun item row => row ++ [member item]) items k =
      (items.filter (key · = k)).map member := by
  rw [rowOf, List.foldl_append_eq_append, List.nil_append, ← List.flatMap_def,
    ← List.map_eq_flatMap]

/-- The groups are the items of each distinct key, in their order. -/
theorem groupsBy_eq (key : α → κ) (items : List α) :
    groupsBy key items =
      (distinct (items.map key)).map fun k => (k, items.filter (key · = k)) := by
  rw [groupsBy, collectRows_eq]
  refine List.map_congr_left fun k _ => ?_
  rw [rowOf_members key (fun item => item), List.map_id']

end FlowDiagram
