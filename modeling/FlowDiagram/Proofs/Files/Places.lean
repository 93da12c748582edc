import FlowDiagram.Files.Disk
import Mathlib.Data.List.Nodup

/-!
# Places of a disk

A disk lists its nodes in some order. If no place is listed twice, what stands at a place is what
the list says there, and what stands below a place is listed once. So nothing that is looked up
depends on the order of the list.

## Main definitions

* `Disk.ListsOnce`: no place is listed twice.
* `Disk.Relisted`: the same nodes in another order.

`Disk.mem_below_iff` says what stands below a place, and `Disk.Relisted.node?_eq` that the order of
the list does not matter for what stands at a place.
-/

namespace FlowDiagram.Disk

/-- No place of a disk is listed twice. -/
def ListsOnce (disk : Disk) : Prop :=
  (disk.nodes.map Prod.fst).Nodup

instance (disk : Disk) : Decidable disk.ListsOnce :=
  inferInstanceAs (Decidable (disk.nodes.map Prod.fst).Nodup)

/-- The nodes of a disk, in another order. -/
structure Relisted (disk other : Disk) : Prop where
  home : other.home = disk.home
  nodes : other.nodes.Perm disk.nodes

variable {disk other : Disk}

theorem Relisted.listsOnce (h : Relisted disk other) (hdisk : disk.ListsOnce) :
    other.ListsOnce :=
  (h.nodes.map Prod.fst).nodup_iff.mpr hdisk

/-! ## What stands at a place -/

theorem read_eq_ok_iff {path : Path} {bytes : List UInt8} :
    disk.read path = .ok bytes ↔
      ∃ place, disk.locate path = .ok place ∧ disk.node? place = some (.file bytes) := by
  simp only [read, find, bind, Except.bind]
  cases disk.locate path with
  | error => simp
  | ok place =>
    cases hnode : disk.node? place with
    | none => simp [hnode, throw, throwThe, MonadExceptOf.throw]
    | some node => cases node <;> simp [hnode, pure, Except.pure, throw, throwThe, MonadExceptOf.throw]

namespace ListsOnce

/-- What stands at a place other than the root is what the list says. -/
theorem node?_eq_some_iff (hdisk : disk.ListsOnce) {place : Place} (hplace : place ≠ [])
    {node : DiskNode} : disk.node? place = some node ↔ (place, node) ∈ disk.nodes := by
  have hempty : place.isEmpty = false := List.isEmpty_eq_false_iff.mpr hplace
  rw [node?, hempty, if_neg Bool.false_ne_true, Option.map_eq_some_iff]
  constructor
  · rintro ⟨⟨location, found⟩, hfound, rfl⟩
    have hsame := List.find?_some hfound
    rw [Place.same_eq, decide_eq_true_eq] at hsame
    exact hsame ▸ List.mem_of_find?_eq_some hfound
  · intro hmem
    have hsome : (disk.nodes.find? fun entry => Place.same entry.1 place).isSome = true :=
      List.find?_isSome.mpr ⟨_, hmem, by rw [Place.same_eq, decide_eq_true_eq]⟩
    obtain ⟨entry, hfound⟩ := Option.isSome_iff_exists.mp hsome
    have hsame := List.find?_some hfound
    rw [Place.same_eq, decide_eq_true_eq] at hsame
    have hentry : entry = (place, node) :=
      List.inj_on_of_nodup_map hdisk (List.mem_of_find?_eq_some hfound) hmem hsame
    exact ⟨entry, hfound, congrArg Prod.snd hentry⟩

/-! ## What stands below a place -/

theorem mem_below_iff (hdisk : disk.ListsOnce) {place names : Place} {node : DiskNode} :
    (names, node) ∈ disk.below place ↔ names ≠ [] ∧ disk.node? (place ++ names) = some node := by
  simp only [below, List.mem_filterMap, Option.ite_none_right_eq_some, Bool.and_eq_true,
    List.isPrefixOf_iff_prefix, decide_eq_true_eq, Option.some.injEq, Prod.mk.injEq]
  constructor
  · rintro ⟨⟨location, found⟩, hmem, ⟨⟨rest, rfl⟩, hlength⟩, hnames, rfl⟩
    rw [List.drop_left] at hnames
    subst hnames
    have hrest : rest ≠ [] := by
      rintro rfl
      simp at hlength
    exact ⟨hrest, (hdisk.node?_eq_some_iff (List.append_ne_nil_of_right_ne_nil _ hrest)).mpr hmem⟩
  · rintro ⟨hnames, hnode⟩
    have hmem :=
      (hdisk.node?_eq_some_iff (List.append_ne_nil_of_right_ne_nil place hnames)).mp hnode
    refine ⟨_, hmem, ⟨List.prefix_append _ _, ?_⟩, List.drop_left, rfl⟩
    rw [List.length_append]
    exact Nat.lt_add_of_pos_right (List.length_pos_iff.mpr hnames)

theorem mem_filesBelow_iff (hdisk : disk.ListsOnce) {place names : Place} :
    names ∈ disk.filesBelow place ↔
      names ≠ [] ∧ ∃ bytes, disk.node? (place ++ names) = some (.file bytes) := by
  rw [filesBelow, List.mem_filterMap]
  constructor
  · rintro ⟨⟨found, node⟩, hmem, hfound⟩
    cases node with
    | folder => cases hfound
    | file bytes =>
      cases hfound
      exact (hdisk.mem_below_iff.mp hmem).imp_right fun hnode => ⟨bytes, hnode⟩
  · rintro ⟨hnames, bytes, hnode⟩
    exact ⟨(names, .file bytes), hdisk.mem_below_iff.mpr ⟨hnames, hnode⟩, rfl⟩

/-- What stands below a place is listed once. -/
theorem nodup_below (hdisk : disk.ListsOnce) (place : Place) :
    ((disk.below place).map Prod.fst).Nodup := by
  have hplaces : ((disk.below place).map fun entry => place ++ entry.1).Sublist
      (disk.nodes.map Prod.fst) := by
    have hfound : (disk.below place).map (fun entry => place ++ entry.1) =
        (disk.nodes.map Prod.fst).filter fun location =>
          place.isPrefixOf location && decide (place.length < location.length) := by
      rw [below, List.map_filterMap, ← List.filterMap_eq_filter, List.filterMap_map]
      refine List.filterMap_congr fun entry _ => ?_
      simp only [Function.comp_apply, Option.guard]
      split
      · rename_i hprefix
        rw [Bool.and_eq_true, List.isPrefixOf_iff_prefix] at hprefix
        rw [Option.map_some, List.prefix_iff_eq_append.mp hprefix.1]
      · rfl
    rw [hfound]
    exact List.filter_sublist
  exact List.Nodup.of_map (place ++ ·) (by
    rw [List.map_map]
    exact List.Nodup.sublist hplaces hdisk)

theorem nodup_filesBelow (hdisk : disk.ListsOnce) (place : Place) :
    (disk.filesBelow place).Nodup := by
  have hsublist : (disk.filesBelow place).Sublist ((disk.below place).map Prod.fst) := by
    have hfiles : disk.filesBelow place =
        ((disk.below place).filter fun entry => decide (entry.2 ≠ .folder)).map Prod.fst := by
      rw [filesBelow, ← List.filterMap_eq_filter, List.map_filterMap]
      refine List.filterMap_congr fun entry _ => ?_
      cases hnode : entry.2 <;> simp [Option.guard, hnode]
    rw [hfiles]
    exact List.filter_sublist.map _
  exact (hdisk.nodup_below place).sublist hsublist

end ListsOnce

/-! ## The order of the list -/

namespace Relisted

variable (h : Relisted disk other)

include h

theorem node?_eq (hdisk : disk.ListsOnce) (place : Place) :
    other.node? place = disk.node? place := by
  by_cases hplace : place = []
  · subst hplace
    rfl
  · refine Option.ext fun node => ?_
    rw [hdisk.node?_eq_some_iff hplace, (h.listsOnce hdisk).node?_eq_some_iff hplace]
    exact h.nodes.mem_iff

theorem locateFrom_eq (hdisk : disk.ListsOnce) (place : Place) (names : List Text) :
    other.locateFrom place names = disk.locateFrom place names := by
  induction names generalizing place with
  | nil => rfl
  | cons name names ih => simp only [locateFrom, h.node?_eq hdisk, ih]

theorem locate_eq (hdisk : disk.ListsOnce) (path : Path) :
    other.locate path = disk.locate path := by
  simp only [locate, baseOf, h.home, h.locateFrom_eq hdisk]

theorem read_eq (hdisk : disk.ListsOnce) (path : Path) : other.read path = disk.read path := by
  simp only [read, find, h.locate_eq hdisk, h.node?_eq hdisk]

theorem filesBelow_perm (place : Place) :
    (other.filesBelow place).Perm (disk.filesBelow place) :=
  (h.nodes.filterMap _).filterMap _

end Relisted

end FlowDiagram.Disk
