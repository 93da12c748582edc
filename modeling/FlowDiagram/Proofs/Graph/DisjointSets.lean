import FlowDiagram.Graph.DisjointSets
import FlowDiagram.Sequence.Distinct
import Mathlib.Data.List.Nodup
import Mathlib.Data.List.Perm.Subperm
import Mathlib.Logic.Relation

/-!
# Roots of disjoint sets

Disjoint sets are known by the root of every item. Adding an item and looking a root up change no
root, although looking up rewrites parents; joining two sets moves one of them below the root of the
other. Hence two items have one root exactly when the joins made so far connect them.

## Main definitions

* `DisjointSets.Climbs`: the way from an item to its root, with its length.
* `DisjointSets.Sound`: every item has such a way.
* `DisjointSets.Refines`: another structure with the same items and the same roots.
* `DisjointSets.Joined`: the roots are those of some joins.
* `DisjointSets.ofLists`: the sets that result when the items of every list are joined.

`DisjointSets.Sound.mem_groups` says which groups the sets are.
-/

namespace FlowDiagram.DisjointSets

open Relation

variable {α : Type} [DecidableEq α] [Hashable α] {sets : DisjointSets α}

/-! ## Parents -/

theorem parent?_setParent (sets : DisjointSets α) (item parent a : α) :
    (sets.setParent item parent).parent? a = if item = a then some parent else sets.parent? a := by
  simp [parent?, setParent, Std.HashMap.getElem?_insert]

theorem parent?_add (sets : DisjointSets α) (item a : α) :
    (sets.add item).parent? a =
      if item = a ∧ sets.parent? item = none then some item else sets.parent? a := by
  unfold add
  cases hp : sets.parent? item with
  | none =>
    simp only [Option.isSome_none, Bool.false_eq_true, if_false, and_true]
    simp [parent?, Std.HashMap.getElem?_insert]
  | some parent => simp

/-! ## The way to a root -/

/-- Parents lead from an item to a root in a number of steps. -/
inductive Climbs (sets : DisjointSets α) : Nat → α → α → Prop
  | root {r : α} (hr : sets.parent? r = some r) : Climbs sets 0 r r
  | step {n : Nat} {a p r : α} (hp : sets.parent? a = some p) (hne : p ≠ a)
      (rest : Climbs sets n p r) : Climbs sets (n + 1) a r

namespace Climbs

theorem unique {n m : Nat} {a r s : α} (h : Climbs sets n a r) (h' : Climbs sets m a s) :
    n = m ∧ r = s := by
  induction h generalizing m s with
  | root hr =>
    cases h' with
    | root _ => exact ⟨rfl, rfl⟩
    | step hp hne _ => exact absurd (Option.some.inj (hp.symm.trans hr)) hne
  | step hp hne _ ih =>
    cases h' with
    | root hr => exact absurd (Option.some.inj (hp.symm.trans hr)) hne
    | step hp' _ rest =>
      have heq := Option.some.inj (hp'.symm.trans hp)
      subst heq
      obtain ⟨rfl, rfl⟩ := ih rest
      exact ⟨rfl, rfl⟩

theorem parent?_root {n : Nat} {a r : α} (h : Climbs sets n a r) : sets.parent? r = some r := by
  induction h with
  | root hr => exact hr
  | step _ _ _ ih => exact ih

theorem parent?_ne_none {n : Nat} {a r : α} (h : Climbs sets n a r) : sets.parent? a ≠ none := by
  cases h with
  | root hr => simp [hr]
  | step hp _ _ => simp [hp]

/-- The items on the way to a root are distinct, and their ways are no longer. -/
theorem exists_path {n : Nat} {a r : α} (h : Climbs sets n a r) :
    ∃ path : List α, path.length = n + 1 ∧ path.Nodup ∧
      ∀ b ∈ path, ∃ m, m ≤ n ∧ Climbs sets m b r := by
  induction h with
  | root hr => exact ⟨[_], rfl, List.nodup_singleton _, by simpa using .root hr⟩
  | @step n a p r hp hne rest ih =>
    obtain ⟨path, hlength, hnodup, hpath⟩ := ih
    have ha : a ∉ path := by
      intro ha
      obtain ⟨m, hm, hclimbs⟩ := hpath a ha
      have := (hclimbs.unique (.step hp hne rest)).1
      omega
    refine ⟨a :: path, by simp [hlength], List.nodup_cons.mpr ⟨ha, hnodup⟩, ?_⟩
    intro b hb
    rcases List.mem_cons.mp hb with rfl | hb
    · exact ⟨n + 1, Nat.le_refl _, .step hp hne rest⟩
    · obtain ⟨m, hm, hclimbs⟩ := hpath b hb
      exact ⟨m, by omega, hclimbs⟩

theorem climb_eq {n fuel : Nat} {a r : α} (h : Climbs sets n a r) (hn : n ≤ fuel) :
    sets.climb fuel a = r := by
  induction h generalizing fuel with
  | root hr => cases fuel <;> simp [climb, hr]
  | step hp hne _ ih =>
    cases fuel with
    | zero => omega
    | succ fuel =>
      simp only [climb, hp, if_neg hne]
      exact ih (by omega)

/-- Adding an item leaves every way as it is. -/
theorem add {n : Nat} {a r : α} (h : Climbs sets n a r) (item : α) :
    Climbs (sets.add item) n a r := by
  have hparent : ∀ {b p : α}, sets.parent? b = some p → (sets.add item).parent? b = some p := by
    intro b p hb
    rw [parent?_add, if_neg, hb]
    rintro ⟨rfl, hnone⟩
    simp [hnone] at hb
  induction h with
  | root hr => exact .root (hparent hr)
  | step hp hne _ ih => exact .step (hparent hp) hne ih

/-- A way stays a way to the same root when some item is hung directly below its own root. -/
theorem setParent_root {n m : Nat} {a r item s : α} (hitem : Climbs sets m item s)
    (h : Climbs sets n a r) : ∃ k, Climbs (sets.setParent item s) k a r := by
  have hs : (sets.setParent item s).parent? s = some s := by
    rw [parent?_setParent, hitem.parent?_root, ite_self]
  induction h with
  | @root r hr =>
    refine ⟨0, .root ?_⟩
    rw [parent?_setParent]
    split
    · subst item
      rw [(hitem.unique (.root hr)).2]
    · exact hr
  | @step n a p r hp hne rest ih =>
    by_cases ha : item = a
    · subst ha
      obtain rfl := (hitem.unique (.step hp hne rest)).2
      have hsa : s ≠ item := by
        rintro rfl
        exact hne (Option.some.inj (hp.symm.trans hitem.parent?_root))
      exact ⟨1, .step (by rw [parent?_setParent, if_pos rfl]) hsa (.root hs)⟩
    · obtain ⟨k, hk⟩ := ih
      exact ⟨k + 1, .step (by rw [parent?_setParent, if_neg ha, hp]) hne hk⟩

/-- Hanging a root below another one moves all items of its set there. -/
theorem setParent_link {n : Nat} {a r top low : α} (h : Climbs sets n a r)
    (htop : sets.parent? top = some top) (hlow : sets.parent? low = some low) (hne : top ≠ low) :
    ∃ k, Climbs (sets.setParent low top) k a (if r = low then top else r) := by
  have htop' : (sets.setParent low top).parent? top = some top := by
    rw [parent?_setParent, if_neg hne.symm, htop]
  induction h with
  | @root r hr =>
    by_cases hrl : r = low
    · subst hrl
      rw [if_pos rfl]
      exact ⟨1, .step (by rw [parent?_setParent, if_pos rfl]) hne (.root htop')⟩
    · rw [if_neg hrl]
      exact ⟨0, .root (by rw [parent?_setParent, if_neg (Ne.symm hrl), hr])⟩
  | @step n a p r hp hne' rest ih =>
    have ha : low ≠ a := by
      rintro rfl
      exact hne' (Option.some.inj (hp.symm.trans hlow))
    obtain ⟨k, hk⟩ := ih
    exact ⟨k + 1, .step (by rw [parent?_setParent, if_neg ha, hp]) hne' hk⟩

end Climbs

/-- The items are those with a parent, each listed once, and parents lead from each to a root. -/
structure Sound (sets : DisjointSets α) : Prop where
  nodup : sets.items.Nodup
  mem_items : ∀ a, a ∈ sets.items ↔ sets.parent? a ≠ none
  size_eq : sets.parents.size = sets.items.length
  climbs : ∀ a ∈ sets.items, ∃ n r, Climbs sets n a r

namespace Sound

theorem empty : Sound (DisjointSets.empty : DisjointSets α) where
  nodup := List.nodup_nil
  mem_items a := by simp [DisjointSets.empty, parent?]
  size_eq := by simp [DisjointSets.empty]
  climbs a ha := by simp [DisjointSets.empty] at ha

/-- No way is longer than the number of items. -/
theorem length_le (h : Sound sets) {n : Nat} {a r : α} (hclimbs : Climbs sets n a r) :
    n ≤ sets.parents.size := by
  obtain ⟨path, hlength, hnodup, hpath⟩ := hclimbs.exists_path
  have hsub : path ⊆ sets.items := by
    intro b hb
    obtain ⟨m, -, hb'⟩ := hpath b hb
    exact (h.mem_items b).mpr hb'.parent?_ne_none
  have hle := (hnodup.subperm hsub).length_le
  rw [h.size_eq]
  omega

/-- The search for a root ends at it. -/
theorem root_eq (h : Sound sets) {n : Nat} {a r : α} (hclimbs : Climbs sets n a r) :
    sets.root a = r :=
  hclimbs.climb_eq (h.length_le hclimbs)

theorem climbs_root (h : Sound sets) {a : α} (ha : a ∈ sets.items) :
    ∃ n, Climbs sets n a (sets.root a) := by
  obtain ⟨n, r, hr⟩ := h.climbs a ha
  rw [h.root_eq hr]
  exact ⟨n, hr⟩

/-- What is no item is its own root. -/
theorem root_of_not_mem (h : Sound sets) {a : α} (ha : a ∉ sets.items) : sets.root a = a := by
  have hp : sets.parent? a = none := by simpa using mt (h.mem_items a).mpr ha
  unfold root
  cases sets.parents.size <;> simp [climb, hp]

end Sound

/-! ## Operations -/

/-- Sound disjoint sets with the same items and the same roots. -/
structure Refines (sets sets' : DisjointSets α) : Prop where
  sound : Sound sets'
  items_eq : sets'.items = sets.items
  root_eq : ∀ a, sets'.root a = sets.root a

theorem Refines.refl (h : Sound sets) : Refines sets sets :=
  ⟨h, rfl, fun _ => rfl⟩

theorem Refines.trans {sets₁ sets₂ sets₃ : DisjointSets α} (h : Refines sets₁ sets₂)
    (h' : Refines sets₂ sets₃) : Refines sets₁ sets₃ :=
  ⟨h'.sound, h'.items_eq.trans h.items_eq, fun a => (h'.root_eq a).trans (h.root_eq a)⟩

/-- Giving an item another parent keeps the items. -/
theorem Sound.setParent (h : Sound sets) {item parent : α} (hitem : item ∈ sets.items)
    (hclimbs : ∀ a ∈ sets.items, ∃ n r, Climbs (sets.setParent item parent) n a r) :
    Sound (sets.setParent item parent) where
  nodup := h.nodup
  mem_items a := by
    rw [parent?_setParent]
    split
    · subst a
      simpa [DisjointSets.setParent] using hitem
    · exact h.mem_items a
  size_eq := by
    have hkey : item ∈ sets.parents := by
      rw [Std.HashMap.mem_iff_isSome_getElem?, Option.isSome_iff_ne_none]
      exact (h.mem_items item).mp hitem
    simp only [DisjointSets.setParent, Std.HashMap.size_insert, if_pos hkey]
    exact h.size_eq
  climbs := hclimbs

/-- The ways to roots after an item was given another parent tell all roots. -/
theorem Sound.root_setParent (h : Sound sets) {item parent : α} (hitem : item ∈ sets.items)
    {top : α → α} (hclimbs : ∀ a ∈ sets.items, ∃ n, Climbs (sets.setParent item parent) n a (top a))
    (hothers : ∀ a, a ∉ sets.items → top a = a) :
    Sound (sets.setParent item parent) ∧ ∀ a, (sets.setParent item parent).root a = top a := by
  have hsound : Sound (sets.setParent item parent) :=
    h.setParent hitem fun a ha => (hclimbs a ha).imp fun _ hn => ⟨_, hn⟩
  refine ⟨hsound, fun a => ?_⟩
  by_cases ha : a ∈ sets.items
  · obtain ⟨n, hn⟩ := hclimbs a ha
    exact hsound.root_eq hn
  · rw [hothers a ha]
    exact hsound.root_of_not_mem ha

/-- Hanging an item directly below its own root changes no root. -/
theorem Sound.refines_setParent (h : Sound sets) {item : α} (hitem : item ∈ sets.items) :
    Refines sets (sets.setParent item (sets.root item)) := by
  obtain ⟨m, hm⟩ := h.climbs_root hitem
  have hclimbs : ∀ a ∈ sets.items,
      ∃ n, Climbs (sets.setParent item (sets.root item)) n a (sets.root a) := by
    intro a ha
    obtain ⟨n, hn⟩ := h.climbs_root ha
    exact hm.setParent_root hn
  obtain ⟨hsound, hroot⟩ := h.root_setParent hitem hclimbs fun a ha => h.root_of_not_mem ha
  exact ⟨hsound, rfl, hroot⟩

/-- Shortening the way from an item to its root changes no root. -/
theorem Sound.refines_compress (h : Sound sets) (steps : Nat) {item : α}
    (hitem : item ∈ sets.items) :
    Refines sets (compress (sets.root item) steps item sets) := by
  generalize hroot : sets.root item = root
  induction steps generalizing sets item with
  | zero => exact .refl h
  | succ steps ih =>
    cases hp : sets.parent? item with
    | none => simpa [compress, hp] using Refines.refl h
    | some parent =>
      by_cases hpr : parent = root
      · simpa [compress, hp, hpr] using Refines.refl h
      · simp only [compress, hp, if_neg hpr]
        have hfirst := h.refines_setParent hitem
        rw [hroot] at hfirst
        obtain ⟨n, hn⟩ := h.climbs_root hitem
        rw [hroot] at hn
        have hparent : parent ∈ sets.items ∧ sets.root parent = root := by
          cases hn with
          | root hr => exact absurd (Option.some.inj (hp.symm.trans hr)) hpr
          | step hp' _ rest =>
            obtain rfl := Option.some.inj (hp'.symm.trans hp)
            exact ⟨(h.mem_items _).mpr rest.parent?_ne_none, h.root_eq rest⟩
        refine hfirst.trans (ih hfirst.sound ?_ ?_)
        · rw [hfirst.items_eq]
          exact hparent.1
        · rw [hfirst.root_eq]
          exact hparent.2

theorem Sound.refines_find (h : Sound sets) {item : α} (hitem : item ∈ sets.items) :
    Refines sets (sets.find item).2 :=
  h.refines_compress _ hitem

@[simp] theorem find_fst (sets : DisjointSets α) (item : α) :
    (sets.find item).1 = sets.root item := rfl

theorem mem_items_add (h : Sound sets) {item a : α} :
    a ∈ (sets.add item).items ↔ a ∈ sets.items ∨ a = item := by
  unfold add
  split
  · rename_i hsome
    have hitem : item ∈ sets.items :=
      (h.mem_items item).mpr (Option.isSome_iff_ne_none.mp hsome)
    exact ⟨Or.inl, fun ha => ha.elim id fun heq => heq ▸ hitem⟩
  · simp

/-- Adding an item makes a set of its own. -/
theorem Sound.add (h : Sound sets) (item : α) : Sound (sets.add item) := by
  cases hp : sets.parent? item with
  | some parent =>
    rw [DisjointSets.add, hp]
    exact h
  | none =>
    have hitem : item ∉ sets.items := fun hitem => (h.mem_items item).mp hitem hp
    have hkey : item ∉ sets.parents := by
      rw [Std.HashMap.mem_iff_isSome_getElem?, Option.isSome_iff_ne_none]
      exact fun hk => hk hp
    have hitems : (sets.add item).items = sets.items ++ [item] := by
      simp [DisjointSets.add, hp]
    refine ⟨?_, fun a => ?_, ?_, fun a ha => ?_⟩
    · rw [hitems, List.nodup_append]
      refine ⟨h.nodup, List.nodup_singleton item, fun a ha b hb hab => hitem ?_⟩
      rwa [← List.mem_singleton.mp hb, ← hab]
    · rw [hitems, List.mem_append, List.mem_singleton, h.mem_items, parent?_add]
      by_cases ha : item = a
      · subst ha
        simp [hp]
      · simp [ha, Ne.symm ha]
    · rw [hitems]
      simp [DisjointSets.add, hp, Std.HashMap.size_insert, hkey, h.size_eq]
    · rw [hitems, List.mem_append, List.mem_singleton] at ha
      rcases ha with ha | rfl
      · obtain ⟨n, r, hn⟩ := h.climbs a ha
        exact ⟨n, r, hn.add item⟩
      · exact ⟨0, a, .root (by rw [parent?_add, if_pos ⟨rfl, hp⟩])⟩

/-- No root is changed when an item is added: before, the item was its own root as well. -/
theorem Sound.root_add (h : Sound sets) (item a : α) : (sets.add item).root a = sets.root a := by
  by_cases ha : a ∈ sets.items
  · obtain ⟨n, hn⟩ := h.climbs_root ha
    exact (h.add item).root_eq (hn.add item)
  · rw [h.root_of_not_mem ha]
    by_cases hitem : a = item
    · have hp : sets.parent? item = none := by
        simpa [hitem] using mt (h.mem_items a).mpr ha
      refine (h.add item).root_eq (.root ?_)
      rw [parent?_add, if_pos ⟨hitem.symm, hp⟩, hitem]
    · refine (h.add item).root_of_not_mem fun hmem => ?_
      exact ((mem_items_add h).mp hmem).elim ha hitem

/-- Hanging one root below another keeps all items. -/
theorem Sound.link (h : Sound sets) {top low : α} (htop : sets.parent? top = some top)
    (hlow : sets.parent? low = some low) (hne : top ≠ low) :
    Sound (sets.setParent low top) ∧
      ∀ a, (sets.setParent low top).root a = if sets.root a = low then top else sets.root a := by
  have hmem : low ∈ sets.items := (h.mem_items low).mpr (by simp [hlow])
  have hclimbs : ∀ a ∈ sets.items, ∃ n, Climbs (sets.setParent low top) n a
      (if sets.root a = low then top else sets.root a) := by
    intro a ha
    obtain ⟨n, hn⟩ := h.climbs_root ha
    exact hn.setParent_link htop hlow hne
  refine h.root_setParent hmem hclimbs fun a ha => ?_
  have hal : a ≠ low := fun heq => ha (heq ▸ hmem)
  rw [h.root_of_not_mem ha, if_neg hal]

/-- What a union leaves: the items it adds, and the roots of the second set below the first. -/
structure Joins (sets sets' : DisjointSets α) (a b : α) : Prop where
  sound : Sound sets'
  mem_items : ∀ x, x ∈ sets'.items ↔ x ∈ sets.items ∨ x = a ∨ x = b
  root_eq : ∀ x, sets'.root x = if sets.root x = sets.root b then sets.root a else sets.root x

/-- A union adds both items and looks their roots up, which changes no root, before it hangs the
second root below the first. -/
theorem Sound.exists_union_eq (h : Sound sets) (a b : α) :
    ∃ found, Sound found ∧ (∀ x, x ∈ found.items ↔ x ∈ sets.items ∨ x = a ∨ x = b) ∧
      (∀ x, found.root x = sets.root x) ∧
      sets.union a b = if sets.root a = sets.root b then found
        else found.setParent (sets.root b) (sets.root a) := by
  have hadd : Sound ((sets.add a).add b) := (h.add a).add b
  have hitems : ∀ x, x ∈ ((sets.add a).add b).items ↔ x ∈ sets.items ∨ x = a ∨ x = b := by
    intro x
    rw [mem_items_add (h.add a), mem_items_add h, or_assoc]
  have hroots : ∀ x, ((sets.add a).add b).root x = sets.root x := by
    intro x
    rw [(h.add a).root_add, h.root_add]
  have ha := hadd.refines_find ((hitems a).mpr (Or.inr (Or.inl rfl)))
  have hab : Refines ((sets.add a).add b) ((((sets.add a).add b).find a).2.find b).2 := by
    refine ha.trans (ha.sound.refines_find ?_)
    rw [ha.items_eq]
    exact (hitems b).mpr (Or.inr (Or.inr rfl))
  refine ⟨_, hab.sound, ?_, fun x => (hab.root_eq x).trans (hroots x), ?_⟩
  · intro x
    rw [hab.items_eq, hitems]
  · simp only [union, find_fst, hroots, ha.root_eq]

/-- A union joins the sets of its two items. -/
theorem Sound.joins_union (h : Sound sets) (a b : α) : Joins sets (sets.union a b) a b := by
  obtain ⟨found, hfound, hitems, hroots, hunion⟩ := h.exists_union_eq a b
  have hfixed : ∀ x, x = a ∨ x = b → found.parent? (sets.root x) = some (sets.root x) := by
    intro x hx
    obtain ⟨n, hn⟩ := hfound.climbs_root ((hitems x).mpr (Or.inr hx))
    rw [← hroots]
    exact hn.parent?_root
  rw [hunion]
  split
  · rename_i heq
    refine ⟨hfound, hitems, fun x => ?_⟩
    rw [hroots, heq]
    split
    · assumption
    · rfl
  · rename_i hne
    obtain ⟨hsound, hroot⟩ := hfound.link (hfixed a (Or.inl rfl)) (hfixed b (Or.inr rfl)) hne
    exact ⟨hsound, hitems, fun x => by rw [hroot, hroots]⟩

/-! ## Connection -/

/-- Two items have one root exactly when joins of some pairs connect them. -/
structure Joined (sets : DisjointSets α) (pairs : List (α × α)) : Prop where
  sound : Sound sets
  root_eq_iff : ∀ x y, sets.root x = sets.root y ↔ EqvGen (fun a b => (a, b) ∈ pairs) x y

theorem Joined.empty : Joined (DisjointSets.empty : DisjointSets α) [] := by
  refine ⟨.empty, fun x y => ?_⟩
  have hroot : ∀ a : α, (DisjointSets.empty : DisjointSets α).root a = a :=
    fun a => Sound.empty.root_of_not_mem (by simp [DisjointSets.empty])
  rw [hroot, hroot]
  constructor
  · rintro rfl
    exact .refl x
  · intro h
    induction h with
    | rel _ _ hr => simp at hr
    | refl _ => rfl
    | symm _ _ _ ih => exact ih.symm
    | trans _ _ _ _ _ ih ih' => exact ih.trans ih'

theorem Joined.union {pairs : List (α × α)} (h : Joined sets pairs) (a b : α) :
    Joined (sets.union a b) (pairs ++ [(a, b)]) := by
  have hjoins := h.sound.joins_union a b
  have hold : ∀ {x y}, sets.root x = sets.root y →
      EqvGen (fun u v => (u, v) ∈ pairs ++ [(a, b)]) x y := by
    intro x y hxy
    exact ((h.root_eq_iff x y).mp hxy).mono fun _ _ hr => List.mem_append_left _ hr
  have hnew : EqvGen (fun u v => (u, v) ∈ pairs ++ [(a, b)]) a b :=
    .rel _ _ (List.mem_append_right _ (List.mem_singleton.mpr rfl))
  refine ⟨hjoins.sound, fun x y => ?_⟩
  rw [hjoins.root_eq, hjoins.root_eq]
  constructor
  · intro hxy
    split at hxy
    · rename_i hx
      split at hxy
      · rename_i hy
        exact hold (hx.trans hy.symm)
      · exact (hold hx).trans _ _ _ (hnew.symm.trans _ _ _ (hold hxy))
    · split at hxy
      · rename_i hy
        exact (hold hxy).trans _ _ _ (hnew.trans _ _ _ (hold hy).symm)
      · exact hold hxy
  · intro hxy
    induction hxy with
    | rel u v hr =>
      rcases List.mem_append.mp hr with hr | hr
      · rw [(h.root_eq_iff u v).mpr (.rel _ _ hr)]
      · obtain ⟨rfl, rfl⟩ := Prod.mk.inj (List.mem_singleton.mp hr)
        rw [if_pos rfl]
        split <;> rfl
    | refl _ => rfl
    | symm _ _ _ ih => exact ih.symm
    | trans _ _ _ _ _ ih ih' => exact ih.trans ih'

/-- The joins that put all items of a list into one set. -/
def pairsOf : List α → List (α × α)
  | [] => []
  | first :: rest => (first :: rest).map fun item => (first, item)

theorem Joined.foldl_union {pairs : List (α × α)} (h : Joined sets pairs) (first : α)
    (items : List α) :
    Joined (items.foldl (fun sets item => sets.union first item) sets)
      (pairs ++ items.map fun item => (first, item)) := by
  induction items generalizing sets pairs with
  | nil => simpa using h
  | cons item items ih => simpa using ih (h.union first item)

theorem Joined.unionAll {pairs : List (α × α)} (h : Joined sets pairs) (items : List α) :
    Joined (sets.unionAll items) (pairs ++ pairsOf items) := by
  cases items with
  | nil => simpa [DisjointSets.unionAll, pairsOf] using h
  | cons first rest => exact h.foldl_union first (first :: rest)

theorem Joined.foldl_unionAll {pairs : List (α × α)} (h : Joined sets pairs)
    (lists : List (List α)) :
    Joined (lists.foldl DisjointSets.unionAll sets) (pairs ++ lists.flatMap pairsOf) := by
  induction lists generalizing sets pairs with
  | nil => simpa using h
  | cons items lists ih => simpa [List.append_assoc] using ih (h.unionAll items)

theorem Sound.mem_items_foldl_union (h : Sound sets) {first : α} (hfirst : first ∈ sets.items)
    (items : List α) (x : α) :
    x ∈ (items.foldl (fun sets item => sets.union first item) sets).items ↔
      x ∈ sets.items ∨ x ∈ items := by
  induction items generalizing sets with
  | nil => simp
  | cons item items ih =>
    have hjoins := h.joins_union first item
    have hmem : x ∈ (sets.union first item).items ↔ x ∈ sets.items ∨ x = item := by
      rw [hjoins.mem_items]
      constructor
      · rintro (hx | rfl | hx)
        · exact Or.inl hx
        · exact Or.inl hfirst
        · exact Or.inr hx
      · exact Or.imp_right Or.inr
    rw [List.foldl_cons, ih hjoins.sound ((hjoins.mem_items first).mpr (Or.inl hfirst)), hmem,
      List.mem_cons, or_assoc]

theorem Sound.mem_items_unionAll (h : Sound sets) (items : List α) (x : α) :
    x ∈ (sets.unionAll items).items ↔ x ∈ sets.items ∨ x ∈ items := by
  cases items with
  | nil => simp [DisjointSets.unionAll]
  | cons first rest =>
    have hjoins := h.joins_union first first
    have hfirst : first ∈ (sets.union first first).items :=
      (hjoins.mem_items first).mpr (Or.inr (Or.inl rfl))
    rw [DisjointSets.unionAll, List.foldl_cons, hjoins.sound.mem_items_foldl_union hfirst,
      hjoins.mem_items, or_self, List.mem_cons, or_assoc]

theorem Joined.mem_items_foldl_unionAll {pairs : List (α × α)} (h : Joined sets pairs)
    (lists : List (List α)) (x : α) :
    x ∈ (lists.foldl DisjointSets.unionAll sets).items ↔
      x ∈ sets.items ∨ ∃ items ∈ lists, x ∈ items := by
  induction lists generalizing sets pairs with
  | nil => simp
  | cons items lists ih =>
    rw [List.foldl_cons, ih (h.unionAll items), h.sound.mem_items_unionAll, or_assoc,
      List.exists_mem_cons_iff]

/-! ## Groups -/

/-- Gathering groups items by their roots, as long as all of them are items. -/
theorem Sound.gather_eq (h : Sound sets) {items : List α} (hitems : items ⊆ sets.items)
    (groups : List (α × List α)) :
    gather items sets groups =
      items.foldl (fun groups item => changeRow (sets.root item) [] (· ++ [item]) groups)
        groups := by
  induction items generalizing sets groups with
  | nil => rfl
  | cons item items ih =>
    obtain ⟨hitem, hrest⟩ := List.cons_subset.mp hitems
    have hfind := h.refines_find hitem
    rw [← hfind.items_eq] at hrest
    have hrest' := ih hfind.sound hrest (changeRow (sets.root item) [] (· ++ [item]) groups)
    simp only [hfind.root_eq] at hrest'
    rw [List.foldl_cons, ← hrest']
    rfl

/-- The groups are the items of each root, in the order of the first item of each. -/
theorem Sound.groups_eq (h : Sound sets) :
    sets.groups =
      (distinct (sets.items.map sets.root)).map fun r => sets.items.filter (sets.root · = r) := by
  have hgather : gather sets.items sets [] = groupsBy sets.root sets.items :=
    h.gather_eq (List.Subset.refl _) []
  rw [groups, hgather, groupsBy_eq, List.map_map]
  rfl

/-- A group holds the items that have one root with an item of it. -/
theorem Sound.mem_groups (h : Sound sets) {group : List α} :
    group ∈ sets.groups ↔
      ∃ a ∈ sets.items, group = sets.items.filter (sets.root · = sets.root a) := by
  rw [h.groups_eq, List.mem_map]
  simp only [mem_distinct, List.mem_map]
  constructor
  · rintro ⟨_, ⟨a, ha, rfl⟩, rfl⟩
    exact ⟨a, ha, rfl⟩
  · rintro ⟨a, ha, rfl⟩
    exact ⟨_, ⟨a, ha, rfl⟩, rfl⟩

/-- No two groups share an item. -/
theorem Sound.pairwise_disjoint_groups (h : Sound sets) : sets.groups.Pairwise List.Disjoint := by
  rw [h.groups_eq, List.pairwise_map]
  refine (nodup_distinct _).imp fun {r s} hrs => ?_
  intro x hr hs
  exact hrs ((of_decide_eq_true (List.mem_filter.mp hr).2).symm.trans
    (of_decide_eq_true (List.mem_filter.mp hs).2))

/-! ## Joining lists -/

/-- The sets that are left when the items of every list are joined. -/
def ofLists (lists : List (List α)) : DisjointSets α :=
  lists.foldl unionAll empty

section Lists

variable (lists : List (List α))

theorem joined_ofLists : Joined (ofLists lists) (lists.flatMap pairsOf) := by
  simpa [ofLists] using Joined.empty.foldl_unionAll lists

theorem mem_items_ofLists (x : α) : x ∈ (ofLists lists).items ↔ ∃ l ∈ lists, x ∈ l := by
  rw [ofLists, Joined.empty.mem_items_foldl_unionAll]
  simp [DisjointSets.empty]

variable {lists}

omit [DecidableEq α] [Hashable α] in
theorem mem_of_mem_pairsOf {l : List α} {x y : α} (h : (x, y) ∈ pairsOf l) : x ∈ l ∧ y ∈ l := by
  cases l with
  | nil => exact absurd h List.not_mem_nil
  | cons first rest =>
    obtain ⟨item, hitem, heq⟩ := List.mem_map.mp h
    obtain ⟨rfl, rfl⟩ := Prod.mk.inj heq
    exact ⟨List.mem_cons_self, hitem⟩

/-- The items of a joined list have one root. -/
theorem root_eq_of_mem_list {l : List α} (hl : l ∈ lists) {x y : α} (hx : x ∈ l) (hy : y ∈ l) :
    (ofLists lists).root x = (ofLists lists).root y := by
  cases l with
  | nil => exact absurd hx List.not_mem_nil
  | cons first rest =>
    have hfirst : ∀ z ∈ first :: rest, EqvGen (fun a b => (a, b) ∈ lists.flatMap pairsOf) first z :=
      fun z hz => .rel _ _ (List.mem_flatMap.mpr ⟨_, hl, List.mem_map.mpr ⟨z, hz, rfl⟩⟩)
    rw [(joined_ofLists lists).root_eq_iff]
    exact (hfirst x hx).symm.trans _ _ _ (hfirst y hy)

/-- Groups are connected by whatever connects the items of each list. -/
theorem related_of_mem_group {related : α → α → Prop} (hrelated : Equivalence related)
    (hlists : ∀ l ∈ lists, ∀ x ∈ l, ∀ y ∈ l, related x y) {group : List α}
    (hgroup : group ∈ (ofLists lists).groups) {x y : α}
    (hx : x ∈ group) (hy : y ∈ group) : related x y := by
  obtain ⟨a, -, rfl⟩ := (joined_ofLists lists).sound.mem_groups.mp hgroup
  have hx := of_decide_eq_true (List.mem_filter.mp hx).2
  have hy := of_decide_eq_true (List.mem_filter.mp hy).2
  have hxy := ((joined_ofLists lists).root_eq_iff x y).mp (hx.trans hy.symm)
  rw [← hrelated.eqvGen_eq]
  refine EqvGen.mono (fun u v huv => ?_) x y hxy
  obtain ⟨l, hl, huv⟩ := List.mem_flatMap.mp huv
  obtain ⟨hu, hv⟩ := mem_of_mem_pairsOf huv
  exact hlists l hl u hu v hv

theorem exists_list_of_mem_group {group : List α}
    (hgroup : group ∈ (ofLists lists).groups) {x : α}
    (hx : x ∈ group) : ∃ l ∈ lists, x ∈ l := by
  obtain ⟨a, -, rfl⟩ := (joined_ofLists lists).sound.mem_groups.mp hgroup
  exact (mem_items_ofLists lists x).mp (List.mem_filter.mp hx).1

theorem exists_group_of_mem_list {l : List α} (hl : l ∈ lists) {x : α} (hx : x ∈ l) :
    ∃ group ∈ (ofLists lists).groups, x ∈ group := by
  have hitem := (mem_items_ofLists lists x).mpr ⟨l, hl, hx⟩
  refine ⟨_, (joined_ofLists lists).sound.mem_groups.mpr ⟨x, hitem, rfl⟩, ?_⟩
  exact List.mem_filter.mpr ⟨hitem, decide_eq_true rfl⟩

/-- A group that shares an item with a joined list holds all of it. -/
theorem list_subset_group {group l : List α}
    (hgroup : group ∈ (ofLists lists).groups)
    (hl : l ∈ lists) {x : α} (hx : x ∈ l) (hxg : x ∈ group) : l ⊆ group := by
  obtain ⟨a, -, rfl⟩ := (joined_ofLists lists).sound.mem_groups.mp hgroup
  intro y hy
  refine List.mem_filter.mpr ⟨(mem_items_ofLists lists y).mpr ⟨l, hl, hy⟩, decide_eq_true ?_⟩
  rw [root_eq_of_mem_list hl hy hx]
  exact of_decide_eq_true (List.mem_filter.mp hxg).2

theorem group_ne_nil {group : List α}
    (hgroup : group ∈ (ofLists lists).groups) : group ≠ [] := by
  obtain ⟨a, ha, rfl⟩ := (joined_ofLists lists).sound.mem_groups.mp hgroup
  exact List.ne_nil_of_mem (List.mem_filter.mpr ⟨ha, decide_eq_true rfl⟩)

end Lists

end FlowDiagram.DisjointSets
