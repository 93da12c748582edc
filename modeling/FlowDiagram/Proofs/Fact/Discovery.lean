import FlowDiagram.Fact.Loading
import FlowDiagram.Proofs.Files.Places
import FlowDiagram.Proofs.Text.Order

/-!
# Discovery of fact files

The search below a folder finds every file that is called like a fact file, however deep it lies,
once, and in the order of the paths by their parts. Neither the search nor its result depends on the
order in which a disk lists its nodes. The search is broken off if a folder lies too deep or a path
that it looks up is too long.

## Main definitions

* `Searchable`: nothing below a folder breaks off the search.
* `FactFileBelow`: a path leads to a fact file below a folder.

`exists_discover_iff` says when the search comes to its end, and `mem_discover_iff` and
`pairwise_discover` what it has found by then.
-/

namespace FlowDiagram

/-! ## The order of paths -/

/-- Parts are compared as lists of texts are. -/
theorem partsInOrder_eq (a b : List Text) : partsInOrder a b = decide (a ≤ b) := by
  induction a generalizing b with
  | nil => simp [partsInOrder]
  | cons part parts ih =>
    cases b with
    | nil => simp [partsInOrder]
    | cons other others =>
      rw [partsInOrder, ih]
      by_cases hpart : part = other
      · simp [hpart, List.cons_le_cons_iff, Std.lt_irrefl]
      · simp [hpart, List.cons_le_cons_iff]

theorem sortPaths_eq (paths : List Path) :
    sortPaths paths = paths.mergeSort fun a b => decide (a.parts ≤ b.parts) := by
  simp only [sortPaths, partsInOrder_eq]

/-! ## The search -/

/-- Nothing below a folder breaks off the search: no folder lies deeper than there is room for, and
no path that is looked up is too long. -/
structure Searchable (room : Nat) (disk : Disk) (root : Path) (place : Place) : Prop where
  shallow : ∀ names, disk.node? (place ++ names) = some .folder → names.length ≤ room
  short : ∀ names node, names ≠ [] → disk.node? (place ++ names) = some node →
    isLookedUp names node = true →
    Text.Raw.size (root.descend names).text ≤ Disk.longestPath

/-- A path leads to a fact file below a folder: it goes on behind the root to a file whose name has
the ending of fact files. -/
def FactFileBelow (disk : Disk) (root : Path) (place : Place) (path : Path) : Prop :=
  ∃ names name bytes, path = root.descend (names ++ [name]) ∧
    disk.node? (place ++ (names ++ [name])) = some (.file bytes) ∧ factFileEnding <:+ name

variable {room : Nat} {disk other : Disk} {root : Path} {place : Place}

theorem searchFault?_eq_none_iff (hdisk : disk.ListsOnce) :
    searchFault? room disk root place = none ↔ Searchable room disk root place := by
  have hdeep : ((disk.below place).any fun found =>
        decide (found.2 = .folder ∧ room < found.1.length)) = false ↔
      ∀ names, disk.node? (place ++ names) = some .folder → names.length ≤ room := by
    simp only [List.any_eq_false, Prod.forall, hdisk.mem_below_iff, decide_eq_true_eq, not_and,
      Nat.not_lt]
    constructor
    · intro h names hnode
      by_cases hnames : names = []
      · exact hnames ▸ Nat.zero_le room
      · exact h names .folder ⟨hnames, hnode⟩ rfl
    · rintro h names node ⟨-, hnode⟩ rfl
      exact h names hnode
  have hlong : ((disk.below place).find? fun found => isLookedUp found.1 found.2 &&
        decide (Disk.longestPath < Text.Raw.size (root.descend found.1).text)) = none ↔
      ∀ names node, names ≠ [] → disk.node? (place ++ names) = some node →
        isLookedUp names node = true →
        Text.Raw.size (root.descend names).text ≤ Disk.longestPath := by
    simp only [List.find?_eq_none, Prod.forall, hdisk.mem_below_iff, Bool.and_eq_true,
      decide_eq_true_eq, not_and, Nat.not_lt, and_imp]
  simp only [searchFault?]
  split
  · rename_i hany
    exact iff_of_false (Option.some_ne_none _) fun h =>
      ne_true_of_eq_false (hdeep.mpr h.shallow) hany
  · rename_i hany
    have hshallow := hdeep.mp (eq_false_of_ne_true hany)
    rw [Option.map_eq_none_iff]
    exact hlong.trans ⟨fun hshort => ⟨hshallow, hshort⟩, Searchable.short⟩

section Folder

variable (hroot : disk.locate root = .ok place) (hfolder : disk.node? place = some .folder)

include hroot hfolder

theorem discover_eq_ok_iff (hdisk : disk.ListsOnce) {paths : List Path} :
    discover disk root room = .ok paths ↔
      Searchable room disk root place ∧ factFilesBelow disk root place = paths := by
  rw [← searchFault?_eq_none_iff hdisk]
  simp only [discover, hroot, hfolder]
  cases searchFault? room disk root place <;> simp

/-- The search comes to its end if nothing breaks it off. -/
theorem exists_discover_iff (hdisk : disk.ListsOnce) :
    (∃ paths, discover disk root room = .ok paths) ↔ Searchable room disk root place := by
  simp only [discover_eq_ok_iff hroot hfolder hdisk, exists_and_left, exists_eq', and_true]

variable {paths : List Path} (hdiscover : discover disk root room = .ok paths)

include hdiscover

/-- The search finds the fact files below the folder. -/
theorem mem_discover_iff (hdisk : disk.ListsOnce) {path : Path} :
    path ∈ paths ↔ FactFileBelow disk root place path := by
  obtain ⟨-, rfl⟩ := (discover_eq_ok_iff hroot hfolder hdisk).mp hdiscover
  rw [factFilesBelow, sortPaths, List.mem_mergeSort, List.mem_map]
  constructor
  · rintro ⟨found, hfound, rfl⟩
    obtain ⟨hbelow, hname⟩ := List.mem_filter.mp hfound
    obtain ⟨hne, bytes, hnode⟩ := hdisk.mem_filesBelow_iff.mp hbelow
    obtain ⟨names, name, rfl⟩ := (List.eq_nil_or_concat' found).resolve_left hne
    refine ⟨names, name, bytes, rfl, hnode, ?_⟩
    simpa [isFactFilePlace, isFactFileName, List.isSuffixOf_iff_suffix] using hname
  · rintro ⟨names, name, bytes, rfl, hnode, hname⟩
    refine ⟨names ++ [name], List.mem_filter.mpr ⟨hdisk.mem_filesBelow_iff.mpr
      ⟨by simp, bytes, hnode⟩, ?_⟩, rfl⟩
    simpa [isFactFilePlace, isFactFileName, List.isSuffixOf_iff_suffix] using hname

/-- What is found is in the strict order of the parts of the paths. -/
theorem pairwise_discover (hdisk : disk.ListsOnce) :
    paths.Pairwise fun a b => a.parts < b.parts := by
  obtain ⟨-, rfl⟩ := (discover_eq_ok_iff hroot hfolder hdisk).mp hdiscover
  rw [factFilesBelow, sortPaths_eq]
  refine pairwise_lt_sort ?_
  rw [List.map_map]
  refine List.Nodup.map (fun _ _ => List.append_cancel_left) ?_
  exact (hdisk.nodup_filesBelow place).filter _

end Folder

/-! ## Other orders of the disk -/

namespace Disk.Relisted

variable (h : Relisted disk other) (hdisk : disk.ListsOnce)

include h hdisk

theorem searchable_iff :
    Searchable room other root place ↔ Searchable room disk root place := by
  constructor <;> rintro ⟨hshallow, hshort⟩
  · simp only [h.node?_eq hdisk] at hshallow hshort
    exact ⟨hshallow, hshort⟩
  · refine ⟨?_, ?_⟩ <;> simpa only [h.node?_eq hdisk]

/-- Where the disk lists its files does not matter. -/
theorem discover_eq (hroot : disk.locate root = .ok place)
    (hfolder : disk.node? place = some .folder) {paths : List Path}
    (hdiscover : discover disk root room = .ok paths) : discover other root room = .ok paths := by
  obtain ⟨hsearch, rfl⟩ := (discover_eq_ok_iff hroot hfolder hdisk).mp hdiscover
  have hsorted := pairwise_discover hroot hfolder hdiscover hdisk
  rw [discover_eq_ok_iff ((h.locate_eq hdisk root).trans hroot)
    ((h.node?_eq hdisk place).trans hfolder) (h.listsOnce hdisk), h.searchable_iff hdisk]
  refine ⟨hsearch, ?_⟩
  conv_lhs => rw [factFilesBelow, sortPaths_eq]
  refine sort_eq_of_perm ?_ hsorted
  refine List.Perm.trans ?_ (List.mergeSort_perm _ _).symm
  exact (((h.filesBelow_perm place).filter _).map _)

end Disk.Relisted

end FlowDiagram
