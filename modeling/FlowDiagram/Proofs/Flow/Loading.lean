import FlowDiagram.Flow.Run
import FlowDiagram.Proofs.Fact.Discovery
import FlowDiagram.Proofs.Fact.Winners

/-!
# Loading the facts below a folder

Facts below a folder are read file by file in the order of the paths. So of the facts that claim one
name the last one of the greatest path is kept, and it is the first unusable file that ends the
loading, which leaves the summary as it was.

## Main definitions

* `Kept`: the fact that is kept for a name.

`loadIndex_resolves` is the main result.
-/

namespace FlowDiagram

/-- The fact that is kept for a name: the last one with this name in the file of the greatest path
of those that have one. -/
def Kept {α : Type} (key : α → Name) (facts : FactFile → List α)
    (load : Path → Except LoadError FactFile) (paths : List Path) (name : Name) (fact : α) : Prop :=
  ∃ path ∈ paths, ∃ file, load path = .ok file ∧ winner? key (facts file) name = some fact ∧
    ∀ later ∈ paths, path.parts < later.parts →
      ∀ other, load later = .ok other → ∀ fact ∈ facts other, key fact ≠ name

/-! ## Files one after the other -/

section Files

variable {room : Nat} {disk : Disk}

theorem classes_ofFiles (files : List (Path × FactFile)) :
    (FactSet.ofFiles files).classes = files.flatMap fun entry => entry.2.classes := by
  rw [List.flatMap_eq_foldl]
  exact (List.foldl_hom FactSet.classes fun _ _ => rfl).symm

theorem processors_ofFiles (files : List (Path × FactFile)) :
    (FactSet.ofFiles files).processors = files.flatMap fun entry => entry.2.processors := by
  rw [List.flatMap_eq_foldl]
  exact (List.foldl_hom FactSet.processors fun _ _ => rfl).symm

/-- Usable files are all loaded. -/
theorem loadFiles_of_usable {paths : List Path}
    (h : ∀ path ∈ paths, ∃ file, FactFile.load room disk path = .ok file) :
    ∃ files, loadFiles room disk paths = (files, none) ∧ files.map Prod.fst = paths ∧
      ∀ entry ∈ files, FactFile.load room disk entry.1 = .ok entry.2 := by
  induction paths with
  | nil => exact ⟨[], rfl, rfl, fun _ hentry => nomatch hentry⟩
  | cons path paths ih =>
    obtain ⟨hpath, hpaths⟩ := List.forall_mem_cons.mp h
    obtain ⟨file, hfile⟩ := hpath
    obtain ⟨files, hloaded, hmap, hall⟩ := ih hpaths
    refine ⟨(path, file) :: files, ?_, ?_, List.forall_mem_cons.mpr ⟨hfile, hall⟩⟩
    · rw [loadFiles, hfile, hloaded]
    · rw [List.map_cons, hmap]

/-- The first unusable file ends the loading. -/
theorem loadFiles_of_unusable {before after : List Path} {bad : Path} {error : LoadError}
    (hbefore : ∀ path ∈ before, ∃ file, FactFile.load room disk path = .ok file)
    (hbad : FactFile.load room disk bad = .error error) :
    (loadFiles room disk (before ++ bad :: after)).2 = some error := by
  induction before with
  | nil => rw [List.nil_append, loadFiles, hbad]
  | cons path before ih =>
    obtain ⟨hpath, hbefore⟩ := List.forall_mem_cons.mp hbefore
    obtain ⟨file, hfile⟩ := hpath
    rw [List.cons_append, loadFiles, hfile]
    exact ih hbefore

theorem usable_of_loadFiles {paths : List Path} (h : (loadFiles room disk paths).2 = none) :
    ∀ path ∈ paths, ∃ file, FactFile.load room disk path = .ok file := by
  induction paths with
  | nil => exact fun _ hpath => nomatch hpath
  | cons path paths ih =>
    rw [loadFiles] at h
    split at h
    · cases h
    · rename_i file hfile
      exact List.forall_mem_cons.mpr ⟨⟨file, hfile⟩, ih h⟩

/-- What comes of files that are all usable, and of no others. -/
theorem loadFiles_eq_iff {paths : List Path} {files : List (Path × FactFile)} :
    loadFiles room disk paths = (files, none) ↔
      files.map Prod.fst = paths ∧
        ∀ entry ∈ files, FactFile.load room disk entry.1 = .ok entry.2 := by
  constructor
  · intro h
    obtain ⟨found, hfound, hmap, hloaded⟩ :=
      loadFiles_of_usable (usable_of_loadFiles (congrArg Prod.snd h))
    obtain ⟨rfl, -⟩ := Prod.mk.inj (hfound.symm.trans h)
    exact ⟨hmap, hloaded⟩
  · rintro ⟨rfl, hloaded⟩
    induction files with
    | nil => rfl
    | cons entry files ih =>
      obtain ⟨hentry, hfiles⟩ := List.forall_mem_cons.mp hloaded
      rw [List.map_cons, loadFiles, hentry, ih hfiles]

/-- Loading depends on what is read only. -/
theorem loadFiles_congr {other : Disk} (h : other.read = disk.read) (paths : List Path) :
    loadFiles room other paths = loadFiles room disk paths := by
  have hload : FactFile.load room other = FactFile.load room disk := by
    funext path
    simp only [FactFile.load, h]
  induction paths with
  | nil => rfl
  | cons path paths ih => simp only [loadFiles, hload, ih]

/-- Which fact wins among the facts of sorted files. -/
theorem kept_iff {α : Type} {key : α → Name} {facts : FactFile → List α} {paths : List Path}
    {files : List (Path × FactFile)} (hsorted : paths.Pairwise fun a b => a.parts < b.parts)
    (hmap : files.map Prod.fst = paths)
    (hloaded : ∀ entry ∈ files, FactFile.load room disk entry.1 = .ok entry.2)
    {name : Name} {fact : α} :
    winner? key (files.flatMap fun entry => facts entry.2) name = some fact ↔
      Kept key facts (FactFile.load room disk) paths name fact := by
  subst hmap
  have hasymm : ∀ a b : Path × FactFile, a.1.parts < b.1.parts → ¬ b.1.parts < a.1.parts :=
    fun _ _ h h' => Std.lt_irrefl (Std.lt_trans h h')
  rw [List.pairwise_map] at hsorted
  rw [winner?_flatMap_eq_some_iff hasymm hsorted]
  simp only [winner?_eq_none_iff]
  constructor
  · rintro ⟨entry, hentry, hwins, hlast⟩
    refine ⟨entry.1, List.mem_map_of_mem hentry, entry.2, hloaded entry hentry, hwins, ?_⟩
    intro later hlater hbefore other hother
    obtain ⟨found, hfound, rfl⟩ := List.mem_map.mp hlater
    obtain rfl := Except.ok.inj ((hloaded found hfound).symm.trans hother)
    exact hlast found hfound hbefore
  · rintro ⟨path, hpath, file, hfile, hwins, hlast⟩
    obtain ⟨entry, hentry, rfl⟩ := List.mem_map.mp hpath
    obtain rfl := Except.ok.inj ((hloaded entry hentry).symm.trans hfile)
    exact ⟨entry, hentry, hwins, fun later hlater hbefore =>
      hlast later.1 (List.mem_map_of_mem hlater) hbefore later.2 (hloaded later hlater)⟩

end Files

/-! ## Indexes -/

section Index

variable {room : Nat} {disk : Disk} {root : Path} {paths : List Path}

theorem answer_loadIndex_of_error {error : LoadError}
    (h : discover disk root (room - searchShare) = .error error) :
    (loadIndex room disk root).answer = .error error := by
  rw [loadIndex, h]

variable (hdiscover : discover disk root (room - searchShare) = .ok paths)

include hdiscover

theorem answer_loadIndex_of_usable {files : List (Path × FactFile)}
    (h : loadFiles room disk paths = (files, none)) :
    (loadIndex room disk root).answer =
      .ok ⟨FactIndex.build (FactSet.ofFiles files).classes (FactSet.ofFiles files).processors,
        paths⟩ := by
  simp only [loadIndex, hdiscover, h]

theorem answer_loadIndex_of_unusable {error : LoadError}
    (h : (loadFiles room disk paths).2 = some error) :
    (loadIndex room disk root).answer = .error error := by
  simp only [loadIndex, hdiscover, h]

end Index

/-- Facts are loaded if the search for files ends and each file found is usable. -/
theorem answer_loadIndex_eq_ok_iff {room : Nat} {disk : Disk} {root : Path}
    {loaded : LoadedIndex} :
    (loadIndex room disk root).answer = .ok loaded ↔
      ∃ files : List (Path × FactFile),
        discover disk root (room - searchShare) = .ok (files.map Prod.fst) ∧
          (∀ entry ∈ files, FactFile.load room disk entry.1 = .ok entry.2) ∧
          loaded = ⟨FactIndex.build (FactSet.ofFiles files).classes
            (FactSet.ofFiles files).processors, files.map Prod.fst⟩ := by
  constructor
  · intro h
    cases hdiscover : discover disk root (room - searchShare) with
    | error error =>
      rw [answer_loadIndex_of_error hdiscover] at h
      cases h
    | ok paths =>
      cases hfiles : loadFiles room disk paths with
      | mk files error =>
        cases error with
        | some error =>
          rw [answer_loadIndex_of_unusable hdiscover (congrArg Prod.snd hfiles)] at h
          cases h
        | none =>
          rw [answer_loadIndex_of_usable hdiscover hfiles] at h
          obtain ⟨rfl, hloaded⟩ := loadFiles_eq_iff.mp hfiles
          exact ⟨files, rfl, hloaded, (Except.ok.inj h).symm⟩
  · rintro ⟨files, hdiscover, hloaded, rfl⟩
    exact answer_loadIndex_of_usable hdiscover (loadFiles_eq_iff.mpr ⟨rfl, hloaded⟩)

/-- Let a folder stand at the root. If the search below it is not broken off, it finds the fact
files below the folder, each once and in the strict order of their parts, whatever the order of the
disk. If all of them are usable, the index keeps for each name of a class, and for each activity,
the last fact of the greatest path that declares it; otherwise the loading ends with the error of
the first unusable file in that order, and the summary stays as it was. If the search is broken off,
so is the loading. -/
theorem loadIndex_resolves (room : Nat) {disk : Disk} {root : Path} {place : Place}
    (hdisk : disk.ListsOnce) (hroot : disk.locate root = .ok place)
    (hfolder : disk.node? place = some .folder) :
    let answer := (loadIndex room disk root).answer
    let load := FactFile.load room disk
    (Searchable (room - searchShare) disk root place →
      ∃ paths, discover disk root (room - searchShare) = .ok paths ∧
        (∀ path, path ∈ paths ↔ FactFileBelow disk root place path) ∧
        (paths.Pairwise fun a b => a.parts < b.parts) ∧
        (∀ other, disk.Relisted other →
          discover other root (room - searchShare) = .ok paths ∧
            loadIndex room other root = loadIndex room disk root) ∧
        ((∀ path ∈ paths, ∃ file, load path = .ok file) →
          ∃ loaded, answer = .ok loaded ∧ loaded.files = paths ∧
            (∀ name fact, loaded.index.class? name = some fact ↔
              Kept ClassFact.name FactFile.classes load paths name fact) ∧
            ∀ activity fact, loaded.index.processor? activity = some fact ↔
              Kept ProcessorFact.activity FactFile.processors load paths activity fact) ∧
        ∀ bad ∈ paths, ∀ error, load bad = .error error →
          (∀ path ∈ paths, path.parts < bad.parts → ∃ file, load path = .ok file) →
          answer = .error error ∧ ∀ summary : RunSummary, summary.afterLoading answer = summary) ∧
    (¬ Searchable (room - searchShare) disk root place →
      (∃ error, discover disk root (room - searchShare) = .error error ∧ answer = .error error) ∧
        ∀ summary : RunSummary, summary.afterLoading answer = summary) := by
  intro answer load
  constructor
  · intro hsearch
    obtain ⟨paths, hdiscover⟩ := (exists_discover_iff hroot hfolder hdisk).mpr hsearch
    have hsorted := pairwise_discover hroot hfolder hdiscover hdisk
    refine ⟨paths, hdiscover, fun _ => mem_discover_iff hroot hfolder hdiscover hdisk, hsorted,
      ?relisted, ?usable, ?unusable⟩
    case relisted =>
      intro other hother
      have hsame := hother.discover_eq hdisk hroot hfolder hdiscover
      have hread : other.read = disk.read := funext (hother.read_eq hdisk)
      refine ⟨hsame, ?_⟩
      simp only [loadIndex, hsame, hdiscover, loadFiles_congr hread]
    case usable =>
      intro husable
      obtain ⟨files, hfiles, hmap, hloaded⟩ := loadFiles_of_usable husable
      refine ⟨_, answer_loadIndex_of_usable hdiscover hfiles, rfl, fun name fact => ?_,
        fun activity fact => ?_⟩
      · rw [FactIndex.class?_build, classes_ofFiles]
        exact kept_iff hsorted hmap hloaded
      · rw [FactIndex.processor?_build, processors_ofFiles]
        exact kept_iff hsorted hmap hloaded
    case unusable =>
      intro bad hbad error herror hbefore
      obtain ⟨before, after, rfl⟩ := List.append_of_mem hbad
      have husable : ∀ path ∈ before, ∃ file, load path = .ok file := fun path hpath =>
        hbefore path (List.mem_append_left _ hpath)
          ((List.pairwise_append.mp hsorted).2.2 path hpath bad List.mem_cons_self)
      have hanswer : answer = .error error :=
        answer_loadIndex_of_unusable hdiscover (loadFiles_of_unusable husable herror)
      exact ⟨hanswer, fun summary => by rw [hanswer]; rfl⟩
  · intro hsearch
    obtain ⟨error, hdiscover⟩ : ∃ error, discover disk root (room - searchShare) = .error error := by
      cases hdiscover : discover disk root (room - searchShare) with
      | error error => exact ⟨error, rfl⟩
      | ok paths => exact absurd ((exists_discover_iff hroot hfolder hdisk).mp ⟨_, hdiscover⟩) hsearch
    have hanswer : answer = .error error := answer_loadIndex_of_error hdiscover
    exact ⟨⟨error, hdiscover, hanswer⟩, fun summary => by rw [hanswer]; rfl⟩

/-! ## Two folders -/

/-- The bytes of an empty object, which states no facts. -/
def emptyObject : List UInt8 :=
  [0x7B, 0x7D]

/-- A folder with a fact file, and another one in a folder in it. -/
def nestedDisk : Disk where
  home := []
  nodes := [(["facts", "a-b.facts.json"], .file emptyObject),
    (["facts", "a", "x.facts.json"], .file emptyObject),
    (["facts", "a"], .folder), (["facts"], .folder)]

/-- The file in the inner folder comes first, although its path as a text comes last. -/
theorem loadIndex_resolves_nested :
    let root : Path := ⟨.relative, ["facts"]⟩
    let inner := root.descend ["a", "x.facts.json"]
    let outer := root.descend ["a-b.facts.json"]
    nestedDisk.ListsOnce ∧ nestedDisk.locate root = .ok ["facts"] ∧
      nestedDisk.node? ["facts"] = some .folder ∧
      Searchable (983 - searchShare) nestedDisk root ["facts"] ∧
      (inner.parts < outer.parts ∧ outer.text < inner.text) ∧
      ∃ paths, discover nestedDisk root (983 - searchShare) = .ok paths ∧
        inner ∈ paths ∧ outer ∈ paths ∧ paths.Pairwise fun a b => a.parts < b.parts := by
  intro root inner outer
  have hdisk : nestedDisk.ListsOnce := by decide
  have hroot : nestedDisk.locate root = .ok ["facts"] := by rfl
  have hfolder : nestedDisk.node? ["facts"] = some .folder := by decide
  have hsearch : Searchable (983 - searchShare) nestedDisk root ["facts"] :=
    (searchFault?_eq_none_iff hdisk).mp (by rfl)
  obtain ⟨paths, hdiscover, hmem, hsorted, -⟩ :=
    (loadIndex_resolves 983 hdisk hroot hfolder).1 hsearch
  refine ⟨hdisk, hroot, hfolder, hsearch, by decide, paths, hdiscover, ?_, ?_, hsorted⟩
  · exact (hmem inner).mpr ⟨["a"], "x.facts.json", _, rfl, rfl, by decide⟩
  · exact (hmem outer).mpr ⟨[], "a-b.facts.json", _, rfl, rfl, by decide⟩

/-! ## A long way -/

/-- A name of 250 characters. -/
def longName : Text :=
  List.replicate 250 (.char 'n')

/-- A folder with a fact file. -/
def longDisk : Disk where
  home := []
  nodes := [([longName, longName.take 100 ++ factFileEnding], .file emptyObject),
    ([longName], .folder)]

/-- A way to this folder that goes into it and back again. -/
def longRoot : Path :=
  ⟨.relative, (List.replicate 15 [longName, Text.ofString ".."]).flatten ++ [longName]⟩

/-- The path of the file in the folder is too long, although the file is a fact file. -/
theorem not_discover_long :
    let name := longName.take 100 ++ factFileEnding
    let path := longRoot.descend [name]
    longDisk.ListsOnce ∧ longDisk.locate longRoot = .ok [longName] ∧
      longDisk.node? [longName] = some .folder ∧
      FactFileBelow longDisk longRoot [longName] path ∧
      FactFile.load 983 longDisk ⟨.relative, [longName, name]⟩ = .ok ⟨[], []⟩ ∧
      ∀ room paths, discover longDisk longRoot room ≠ .ok paths := by
  intro name path
  have hdisk : longDisk.ListsOnce := by decide +kernel
  have hroot : longDisk.locate longRoot = .ok [longName] := by decide +kernel
  have hfolder : longDisk.node? [longName] = some .folder := by decide +kernel
  have hlong : Disk.longestPath < Text.Raw.size path.text := by decide +kernel
  have hnode : longDisk.node? ([longName] ++ ([] ++ [name])) =
      some (.file emptyObject) := by decide +kernel
  have hname : factFileEnding <:+ name := List.suffix_append _ _
  refine ⟨hdisk, hroot, hfolder, ⟨[], name, _, rfl, hnode, hname⟩, ?_, fun room paths h => ?_⟩
  · have hread : longDisk.read ⟨.relative, [longName, name]⟩ =
        .ok emptyObject := by decide +kernel
    rw [FactFile.load, hread]
    rfl
  · obtain ⟨-, hshort⟩ := (exists_discover_iff hroot hfolder hdisk).mp ⟨paths, h⟩
    have hle := hshort [name] _ (List.cons_ne_nil _ _) hnode (by decide +kernel)
    exact absurd hlong (Nat.not_lt.mpr hle)

end FlowDiagram
