import FlowDiagram.Files.Disk

/-!
# Folders that are made

Making a folder and the way to it adds folders where nothing stood before. Whatever stood somewhere
stays, and no file is added, whether or not the folder could be made.

## Main definitions

* `Disk.AddsFolders`: a disk has some more folders than another one.

`Disk.addsFolders_makeFolders` is the main result.
-/

namespace FlowDiagram.Disk

/-- A disk has some more folders than another one, where nothing stands on that one. -/
structure AddsFolders (disk other : Disk) : Prop where
  home : other.home = disk.home
  node?_cases : ∀ place, other.node? place = disk.node? place ∨
    disk.node? place = none ∧ other.node? place = some .folder

variable {disk other : Disk}

namespace AddsFolders

theorem refl (disk : Disk) : AddsFolders disk disk where
  home := rfl
  node?_cases _ := Or.inl rfl

theorem trans {third : Disk} (h : AddsFolders disk other) (h' : AddsFolders other third) :
    AddsFolders disk third where
  home := h'.home.trans h.home
  node?_cases place := by
    rcases h.node?_cases place with hsame | ⟨hnone, hfolder⟩
    · rcases h'.node?_cases place with hsame' | ⟨hnone', hfolder'⟩
      · exact Or.inl (hsame'.trans hsame)
      · exact Or.inr ⟨hsame ▸ hnone', hfolder'⟩
    · rcases h'.node?_cases place with hsame' | ⟨hnone', -⟩
      · exact Or.inr ⟨hnone, hsame'.trans hfolder⟩
      · cases hfolder.symm.trans hnone'

/-- The files are the same. -/
theorem file_iff (h : AddsFolders disk other) {place : Place} {bytes : List UInt8} :
    other.node? place = some (.file bytes) ↔ disk.node? place = some (.file bytes) := by
  rcases h.node?_cases place with hsame | ⟨hnone, hfolder⟩
  · rw [hsame]
  · simp [hnone, hfolder]

end AddsFolders

theorem addsFolders_add {place : Place} (h : disk.node? place = none) :
    AddsFolders disk (disk.add place .folder) where
  home := rfl
  node?_cases at_ := by
    by_cases hroot : at_ = []
    · exact Or.inl (by simp [hroot, node?])
    · by_cases hsame : place = at_
      · subst hsame
        exact Or.inr ⟨h, by simp [node?, hroot, add, Place.same_eq]⟩
      · exact Or.inl (by simp [node?, hroot, add, Place.same_eq, hsame])

theorem addsFolders_ensureFolder {place made : Place}
    (h : disk.ensureFolder place = .ok (other, made)) : AddsFolders disk other := by
  unfold ensureFolder at h
  split at h
  · cases h
    exact .refl disk
  · cases h
  · rename_i hnone
    cases h
    exact addsFolders_add hnone

theorem addsFolders_ensureFolderIn {folder made : Place} {name : Text}
    (h : disk.ensureFolderIn folder name = .ok (other, made)) : AddsFolders disk other := by
  rw [ensureFolderIn] at h
  cases hplace : disk.locateFrom folder [name] with
  | error fault =>
    rw [hplace] at h
    cases h
  | ok place =>
    rw [hplace] at h
    exact addsFolders_ensureFolder h

theorem addsFolders_attempt {path : Path} {answer : Except FileError (Disk × Place)}
    (h : ∀ other place, answer = .ok (other, place) → AddsFolders disk other) :
    AddsFolders disk (disk.attempt path answer).1 := by
  cases answer with
  | error => exact .refl disk
  | ok made => exact h made.1 made.2 rfl

/-- The folders on the way are made from the outermost to the innermost one. -/
theorem addsFolders_makeWay (room : Nat) (path : Path) :
    AddsFolders disk (disk.makeWay room path).1 := by
  induction room generalizing path with
  | zero => exact .refl disk
  | succ room ih =>
    rw [makeWay]
    split
    · exact addsFolders_attempt fun _ _ => addsFolders_ensureFolder
    · have hparent := ih path.parent
      split
      · rename_i hway
        rwa [hway] at hparent
      · rename_i made folder hway
        rw [hway] at hparent
        exact hparent.trans (addsFolders_attempt fun _ _ => addsFolders_ensureFolderIn)
    · exact .refl disk

theorem addsFolders_makeFolders (room : Nat) (path : Path) :
    AddsFolders disk (disk.makeFolders room path).1 :=
  addsFolders_makeWay room path

end FlowDiagram.Disk
