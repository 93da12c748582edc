import FlowDiagram.Files.Disk

/-!
# What changes on a disk

Writing or removing a file changes what stands at its place and nothing else; folders stay. So all
paths lead to the places that they led to before, and what stands at a path is there as long as no
file is written or removed at the same place.

## Main definitions

* `Path.Apart`: two paths never lead to the same place.
* `Disk.Holds`, `Disk.Lacks`: what a path leads to.
* `Disk.ChangesAt`: two disks differ in the files at some paths only.

`Disk.writeText_eq_ok` and `Disk.remove_eq_ok` say what writing and removing do, and
`Disk.ChangesAt.holds` and `Disk.ChangesAt.lacks` what stays.
-/

namespace FlowDiagram

/-- Two paths lead to different places on every disk. -/
def Path.Apart (path other : Path) : Prop :=
  ∀ (disk : Disk) (place : Place), disk.locate path = .ok place → disk.locate other ≠ .ok place

theorem Path.Apart.symm {path other : Path} (h : path.Apart other) : other.Apart path :=
  fun disk place hother hpath => h disk place hpath hother

namespace Disk

variable {disk other : Disk} {path : Path} {place : Place}

/-! ## Places that paths lead to -/

/-- Every place on the way is a folder. -/
theorem locateFrom_cons_eq_ok {base : Place} {name : Text} {names : List Text} :
    disk.locateFrom base (name :: names) = .ok place ↔
      disk.node? base = some .folder ∧
        if name = "." then disk.locateFrom base names = .ok place
        else if name = ".." then disk.locateFrom base.dropLast names = .ok place
        else Text.Raw.size name ≤ longestName ∧
          disk.locateFrom (base ++ [Text.Raw.settled name]) names = .ok place := by
  rw [locateFrom]
  cases hnode : disk.node? base with
  | none => simp
  | some node =>
    cases node with
    | file => simp
    | folder =>
      simp only [true_and]
      split
      · rfl
      · split
        · rfl
        · split
          · rename_i hlong
            simp [Nat.not_le.mpr hlong]
          · rename_i hshort
            simp [Nat.not_lt.mp hshort]

/-- A way goes on from where it led to. -/
theorem locateFrom_append {base : Place} {names more : List Text} :
    disk.locateFrom base (names ++ more) =
      (disk.locateFrom base names).bind fun place => disk.locateFrom place more := by
  induction names generalizing base with
  | nil => rfl
  | cons name names ih =>
    rw [List.cons_append, locateFrom, locateFrom]
    cases disk.node? base with
    | none => rfl
    | some node =>
      cases node with
      | file => rfl
      | folder =>
        simp only [ih]
        split
        · rfl
        · split
          · rfl
          · split <;> rfl

theorem locate_eq_ok_iff :
    disk.locate path = .ok place ↔
      screen path.text = .ok () ∧
        disk.locateFrom (disk.baseOf path.anchor) path.parts = .ok place := by
  rw [locate]
  cases screen path.text <;> simp [bind, Except.bind]

theorem find_eq_ok_iff {node : DiskNode} :
    disk.find path = .ok node ↔
      ∃ place, disk.locate path = .ok place ∧ disk.node? place = some node := by
  simp only [find, bind, Except.bind]
  cases disk.locate path with
  | error => simp
  | ok place =>
    cases hnode : disk.node? place <;>
      simp [hnode, pure, Except.pure, throw, throwThe, MonadExceptOf.throw]

/-- A path leads to the file with a text. -/
def Holds (disk : Disk) (path : Path) (text : Text) : Prop :=
  ∃ bytes, Text.Utf8.encode text = .ok bytes ∧ disk.find path = .ok (.file bytes)

/-- A path leads to a place where nothing stands. -/
def Lacks (disk : Disk) (path : Path) : Prop :=
  ∃ place, disk.locate path = .ok place ∧ disk.node? place = none

theorem Lacks.find_eq (h : disk.Lacks path) : disk.find path = .error .notFound := by
  obtain ⟨place, hplace, hnode⟩ := h
  simp [find, hplace, hnode, bind, Except.bind, throw, throwThe, MonadExceptOf.throw]

/-! ## Changes -/

/-- Two disks have the same folders, and differ in the files at some paths only. -/
structure ChangesAt (paths : List Path) (disk other : Disk) : Prop where
  home : other.home = disk.home
  folder_iff : ∀ place, other.node? place = some .folder ↔ disk.node? place = some .folder
  node?_eq : ∀ place, (∀ path ∈ paths, disk.locate path ≠ .ok place) →
    other.node? place = disk.node? place

namespace ChangesAt

variable {paths more : List Path}

theorem refl (disk : Disk) : ChangesAt [] disk disk where
  home := rfl
  folder_iff := fun _ => Iff.rfl
  node?_eq := fun _ _ => rfl

/-- Paths lead to the same places. -/
theorem locate_eq_ok_iff (h : ChangesAt paths disk other) :
    other.locate path = .ok place ↔ disk.locate path = .ok place := by
  have hfrom : ∀ (base : Place) (names : List Text),
      other.locateFrom base names = .ok place ↔ disk.locateFrom base names = .ok place := by
    intro base names
    induction names generalizing base with
    | nil => rfl
    | cons name names ih => simp only [locateFrom_cons_eq_ok, h.folder_iff, ih]
  simp only [Disk.locate_eq_ok_iff, baseOf, h.home, hfrom]

theorem mono (h : ChangesAt paths disk other) (hsub : paths ⊆ more) :
    ChangesAt more disk other where
  home := h.home
  folder_iff := h.folder_iff
  node?_eq := fun place hplace => h.node?_eq place fun path hpath => hplace path (hsub hpath)

theorem trans {third : Disk} (h : ChangesAt paths disk other) (h' : ChangesAt more other third) :
    ChangesAt (paths ++ more) disk third where
  home := h'.home.trans h.home
  folder_iff := fun place => (h'.folder_iff place).trans (h.folder_iff place)
  node?_eq := by
    intro place hplace
    have hold := h.node?_eq place fun path hpath => hplace path (List.mem_append_left _ hpath)
    have hnew := h'.node?_eq place fun path hpath =>
      mt h.locate_eq_ok_iff.mp (hplace path (List.mem_append_right _ hpath))
    exact hnew.trans hold

/-- What stands where a path leads to stays, also if it is nothing, if the changed paths lead
elsewhere. -/
theorem node?_eq_of_apart (h : ChangesAt paths disk other) (hplace : disk.locate path = .ok place)
    (hapart : ∀ changed ∈ paths, path.Apart changed) :
    other.locate path = .ok place ∧ other.node? place = disk.node? place :=
  ⟨h.locate_eq_ok_iff.mpr hplace,
    h.node?_eq place fun changed hchanged => hapart changed hchanged disk place hplace⟩

theorem holds {text : Text} (h : ChangesAt paths disk other) (hholds : disk.Holds path text)
    (hapart : ∀ changed ∈ paths, path.Apart changed) : other.Holds path text := by
  obtain ⟨bytes, hbytes, hfind⟩ := hholds
  obtain ⟨place, hplace, hnode⟩ := find_eq_ok_iff.mp hfind
  obtain ⟨hplace', hnode'⟩ := h.node?_eq_of_apart hplace hapart
  exact ⟨bytes, hbytes, find_eq_ok_iff.mpr ⟨place, hplace', hnode'.trans hnode⟩⟩

theorem lacks (h : ChangesAt paths disk other) (hlacks : disk.Lacks path)
    (hapart : ∀ changed ∈ paths, path.Apart changed) : other.Lacks path := by
  obtain ⟨place, hplace, hnode⟩ := hlacks
  obtain ⟨hplace', hnode'⟩ := h.node?_eq_of_apart hplace hapart
  exact ⟨place, hplace', hnode'.trans hnode⟩

end ChangesAt

/-! ## Writing and removing -/

theorem ne_nil_of_not_folder (h : disk.node? place ≠ some .folder) : place ≠ [] := by
  rintro rfl
  exact h rfl

/-- A change at one place where there was no folder and is none. -/
theorem changesAt_of_node?_eq {new : Option DiskNode} (hlocate : disk.locate path = .ok place)
    (hold : disk.node? place ≠ some .folder) (hnew : new ≠ some .folder)
    (hhome : other.home = disk.home)
    (hnode : ∀ at_, at_ ≠ [] →
      other.node? at_ = if place = at_ then new else disk.node? at_) :
    ChangesAt [path] disk other where
  home := hhome
  folder_iff := by
    intro at_
    by_cases hroot : at_ = []
    · simp [hroot, node?]
    · rw [hnode at_ hroot]
      split
      · rename_i hsame
        subst hsame
        exact iff_of_false hnew hold
      · rfl
  node?_eq := by
    intro at_ hapart
    by_cases hroot : at_ = []
    · simp [hroot, node?]
    · rw [hnode at_ hroot, if_neg]
      rintro rfl
      exact hapart path List.mem_cons_self hlocate

/-- A file that was written is there, and nothing else has changed. -/
theorem write_eq_ok {bytes : List UInt8} (h : disk.write path bytes = .ok other) :
    ChangesAt [path] disk other ∧ other.find path = .ok (.file bytes) := by
  simp only [write, bind, Except.bind] at h
  cases hlocate : disk.locate path with
  | error => simp [hlocate] at h
  | ok place =>
    have hput : disk.node? place ≠ some .folder ∧ disk.put place (.file bytes) = other := by
      rw [hlocate] at h
      cases hnode : disk.node? place with
      | none =>
        simp only [hnode] at h
        refine ⟨by simp, ?_⟩
        split at h
        · exact Except.ok.inj h
        · cases h
        · cases h
      | some node =>
        cases node with
        | folder => simp [hnode, throw, throwThe, MonadExceptOf.throw] at h
        | file =>
          simp only [hnode] at h
          exact ⟨by simp, Except.ok.inj h⟩
    obtain ⟨hfree, rfl⟩ := hput
    have hfile : some (DiskNode.file bytes) ≠ some .folder := by simp
    have hchanges : ChangesAt [path] disk (disk.put place (.file bytes)) :=
      changesAt_of_node?_eq hlocate hfree hfile rfl fun _ => node?_put disk _
    refine ⟨hchanges, find_eq_ok_iff.mpr ⟨place, hchanges.locate_eq_ok_iff.mpr hlocate, ?_⟩⟩
    rw [node?_put disk _ (ne_nil_of_not_folder hfree), if_pos rfl]

/-- A text that was written is there. -/
theorem writeText_eq_ok {text : Text} (h : disk.writeText path text = (other, .ok ())) :
    ChangesAt [path] disk other ∧ other.Holds path text := by
  unfold writeText at h
  cases hbytes : Text.Utf8.encode text with
  | error fault =>
    simp only [hbytes] at h
    split at h <;> cases h
  | ok bytes =>
    simp only [hbytes] at h
    split at h
    · rename_i hwrite
      cases h
      exact (write_eq_ok hwrite).imp_right fun hfind => ⟨bytes, hbytes, hfind⟩
    · cases h

/-- A file that was removed is gone, and nothing else has changed. -/
theorem remove_eq_ok (h : disk.remove path = .ok other) :
    ChangesAt [path] disk other ∧ other.Lacks path := by
  simp only [remove, bind, Except.bind] at h
  cases hlocate : disk.locate path with
  | error => simp [hlocate] at h
  | ok place =>
    rw [hlocate] at h
    cases hnode : disk.node? place with
    | none => simp [hnode, throw, throwThe, MonadExceptOf.throw] at h
    | some node =>
      cases node with
      | folder => simp [hnode, throw, throwThe, MonadExceptOf.throw] at h
      | file =>
        simp only [hnode] at h
        cases h
        have hfree : disk.node? place ≠ some .folder := by simp [hnode]
        have hchanges : ChangesAt [path] disk (disk.clear place) :=
          changesAt_of_node?_eq hlocate hfree (Option.some_ne_none _).symm rfl
            fun _ => node?_clear disk
        refine ⟨hchanges, place, hchanges.locate_eq_ok_iff.mpr hlocate, ?_⟩
        rw [node?_clear disk (ne_nil_of_not_folder hfree), if_pos rfl]

end Disk

end FlowDiagram
