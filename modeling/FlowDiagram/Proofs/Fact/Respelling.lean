import FlowDiagram.Proofs.Flow.Loading
import FlowDiagram.Proofs.Schema.Spelling
import Mathlib

/-!
# Fact files in another spelling

The two spellings of the fact format mean the same. A fact file in which no class, processor or
transition has both spellings of one field may have any of these keys in the other spelling: it
states the same facts, or it is refused with as many flaws, for the same problems in the same order.

## Main definitions

* `ClassFact.fields`, `Transition.fields`, `ProcessorFact.fields`, `FactFile.fields`: the fields of
  each record.
* `FactFile.Respelled`: a fact file with some keys in another spelling, at any depth.
* `FactFile.States`: what a file states.

`FactFile.load_respelled` is the main result.
-/

namespace FlowDiagram

open Schema

/-! ## Records -/

/-- Values that are not respelled. -/
def sameValues (_ : Text) (json other : Json) : Prop :=
  json = other

/-- Values that are the same are read alike. -/
theorem outline_of_sameValues {α : Type} {read : Json → Checked α} (key : Text) (json other : Json)
    (h : sameValues key json other) : (read json).outline = (read other).outline :=
  congrArg (fun json => (read json).outline) h

/-- The fields of a class. -/
def ClassFact.fields : List FieldName :=
  [nameField, sourceLocationField, supertypeNamesField, initialActivityField]

/-- A class with some keys in another spelling. -/
def ClassFact.Respelled : Json → Json → Prop :=
  RecordRespelled fields sameValues

theorem ClassFact.outline_ofMembers {members others : List (Text × Json)}
    (h : MembersRespelled fields sameValues members others) :
    (ofMembers members).outline = (ofMembers others).outline := by
  have hdiffer : SpellingsDiffer fields := by decide
  have hsame {α : Type} {read : Json → Checked α} {field : FieldName} :
      ∀ key ∈ field.spellings, ∀ json other, sameValues key json other →
        (read json).outline = (read other).outline := fun key _ => outline_of_sameValues key
  rw [ofMembers, ofMembers, Checked.outline_map, Checked.outline_map]
  refine congrArg _ (Checked.outline_both ?name (Checked.outline_both ?sourceLocation
    (Checked.outline_both ?supertypeNames ?initialActivity)))
  case name => exact h.outline_required hdiffer (by decide) hsame
  case sourceLocation => exact h.outline_optional hdiffer (by decide) hsame _
  case supertypeNames => exact h.outline_optional hdiffer (by decide) hsame _
  case initialActivity => exact h.outline_optional hdiffer (by decide) hsame _

/-- The fields of a transition. -/
def Transition.fields : List FieldName :=
  [targetField, conditionField, isFeatureFlaggedField, featureFlagNameField, fanOutTargetsField]

/-- A transition with some keys in another spelling. -/
def Transition.Respelled : Json → Json → Prop :=
  RecordRespelled fields sameValues

theorem Transition.outline_ofMembers {members others : List (Text × Json)}
    (h : MembersRespelled fields sameValues members others) :
    (ofMembers members).outline = (ofMembers others).outline := by
  have hdiffer : SpellingsDiffer fields := by decide
  have hsame {α : Type} {read : Json → Checked α} {field : FieldName} :
      ∀ key ∈ field.spellings, ∀ json other, sameValues key json other →
        (read json).outline = (read other).outline := fun key _ => outline_of_sameValues key
  refine Checked.outline_andThen (Checked.outline_both ?target (Checked.outline_both ?condition
    (Checked.outline_both ?isFeatureFlagged (Checked.outline_both ?featureFlagName
      ?fanOutTargets)))) _
  case target => exact h.outline_optional hdiffer (by decide) hsame _
  case condition => exact h.outline_optional hdiffer (by decide) hsame _
  case isFeatureFlagged => exact h.outline_optional hdiffer (by decide) hsame _
  case featureFlagName => exact h.outline_optional hdiffer (by decide) hsame _
  case fanOutTargets => exact h.outline_optional hdiffer (by decide) hsame _

/-- The fields of a processor. -/
def ProcessorFact.fields : List FieldName :=
  [activityField, processorNameField, transitionsField, createsManualTaskField, completesFlowField]

/-- Values of a processor: its transitions may be respelled. -/
def ProcessorFact.values (key : Text) (json other : Json) : Prop :=
  json = other ∨
    key ∈ transitionsField.spellings ∧ ListRespelled Transition.Respelled json other

/-- A processor with some keys in another spelling, also in its transitions. -/
def ProcessorFact.Respelled : Json → Json → Prop :=
  RecordRespelled fields values

theorem ProcessorFact.outline_ofMembers {members others : List (Text × Json)}
    (h : MembersRespelled fields values members others) :
    (ofMembers members).outline = (ofMembers others).outline := by
  have hdiffer : SpellingsDiffer fields := by decide
  have hsame {α : Type} {read : Json → Checked α} {field : FieldName} (hfield : field ∈ fields)
      (hne : field ≠ transitionsField) : ∀ key ∈ field.spellings, ∀ json other,
        values key json other → (read json).outline = (read other).outline := by
    rintro key hkey json other (rfl | ⟨htransitions, -⟩)
    · rfl
    · exact absurd htransitions (hdiffer field hfield transitionsField (by decide) hne key hkey)
  have htransitions : ∀ key ∈ transitionsField.spellings, ∀ json other, values key json other →
      (listOf (record "Transition" Transition.ofMembers) json).outline =
        (listOf (record "Transition" Transition.ofMembers) other).outline := by
    rintro key - json other (rfl | ⟨-, hlist⟩)
    · rfl
    · exact hlist.outline_listOf fun _ _ hitem =>
        hitem.outline_record _ fun _ _ => Transition.outline_ofMembers
  rw [ofMembers, ofMembers, Checked.outline_map, Checked.outline_map]
  refine congrArg _ (Checked.outline_both ?activity (Checked.outline_both ?processorName
    (Checked.outline_both ?transitions (Checked.outline_both ?createsManualTask ?completesFlow))))
  case activity => exact h.outline_required hdiffer (by decide) (hsame (by decide) (by decide))
  case processorName =>
    exact h.outline_required hdiffer (by decide) (hsame (by decide) (by decide))
  case transitions => exact h.outline_optional hdiffer (by decide) htransitions _
  case createsManualTask =>
    exact h.outline_optional hdiffer (by decide) (hsame (by decide) (by decide)) _
  case completesFlow =>
    exact h.outline_optional hdiffer (by decide) (hsame (by decide) (by decide)) _

/-! ## Files -/

namespace FactFile

/-- The fields of a file. -/
def fields : List FieldName :=
  [.plain "classes", .plain "processors"]

/-- Values of a file: its classes and processors may be respelled. -/
def values (key : Text) (json other : Json) : Prop :=
  json = other ∨
    key = Text.ofString "classes" ∧ ListRespelled ClassFact.Respelled json other ∨
    key = Text.ofString "processors" ∧ ListRespelled ProcessorFact.Respelled json other

/-- The object of a file, and the same object with some keys in another spelling, at any depth. -/
def Respelled : List (Text × Json) → List (Text × Json) → Prop :=
  MembersRespelled fields values

theorem outline_ofMembers {members others : List (Text × Json)} (h : Respelled members others) :
    (ofMembers members).outline = (ofMembers others).outline := by
  have hdiffer : SpellingsDiffer fields := by decide
  have hclasses : ∀ key ∈ (FieldName.plain "classes").spellings, ∀ json other,
      values key json other →
        (listOf (record "ClassFact" ClassFact.ofMembers) json).outline =
          (listOf (record "ClassFact" ClassFact.ofMembers) other).outline := by
    rintro key hkey json other (rfl | ⟨-, hlist⟩ | ⟨rfl, -⟩)
    · rfl
    · exact hlist.outline_listOf fun _ _ hitem =>
        hitem.outline_record _ fun _ _ => ClassFact.outline_ofMembers
    · exact absurd hkey (by decide)
  have hprocessors : ∀ key ∈ (FieldName.plain "processors").spellings, ∀ json other,
      values key json other →
        (listOf (record "ProcessorFact" ProcessorFact.ofMembers) json).outline =
          (listOf (record "ProcessorFact" ProcessorFact.ofMembers) other).outline := by
    rintro key hkey json other (rfl | ⟨rfl, -⟩ | ⟨-, hlist⟩)
    · rfl
    · exact absurd hkey (by decide)
    · exact hlist.outline_listOf fun _ _ hitem =>
        hitem.outline_record _ fun _ _ => ProcessorFact.outline_ofMembers
  rw [ofMembers, ofMembers, Checked.outline_map, Checked.outline_map]
  exact congrArg _ (Checked.outline_both (h.outline_optional hdiffer (by decide) hclasses _)
    (h.outline_optional hdiffer (by decide) hprocessors _))

/-- A file states an object: its bytes are the text of the object. -/
def States (room : Nat) (disk : Disk) (path : Path) (members : List (Text × Json)) : Prop :=
  ∃ bytes text, disk.read path = .ok bytes ∧ decodeText bytes = .ok text ∧
    Json.read room text = .ok (.object members)

section States

variable {room : Nat} {disk : Disk} {path : Path} {members : List (Text × Json)}
  (h : States room disk path members)

include h

theorem States.load_eq_of_valid {file : FactFile} (hvalid : ofMembers members = .valid file) :
    load room disk path = .ok file := by
  obtain ⟨bytes, text, hread, htext, hjson⟩ := h
  simp only [load, hread, htext, Except.bind, ofText, hjson, hvalid]

theorem States.load_eq_of_flawed {first : Flaw} {others : List Flaw}
    (hflawed : ofMembers members = .flawed first others) :
    load room disk path = .error (.unusable path (.invalidEntries first others)) := by
  obtain ⟨bytes, text, hread, htext, hjson⟩ := h
  simp only [load, hread, htext, Except.bind, ofText, hjson, hflawed]

/-- A run over a single file that states facts. -/
theorem States.run_eq {file : FactFile} (hvalid : ofMembers members = .valid file)
    (settings : FlowSettings) (outages : Outages) :
    (run settings room disk outages path).answer =
      let index := FactIndex.build (FactSet.ofFiles [(path, file)]).classes
        (FactSet.ofFiles [(path, file)]).processors
      .ok (RunSummary.ofResults ⟨index, [path]⟩
        (generateAll settings index outages none).1) := by
  have hload := h.load_eq_of_valid hvalid
  have hdiscover : discover disk path (room - searchShare) = .ok [path] := by
    obtain ⟨bytes, -, hread, -⟩ := h
    obtain ⟨place, hplace, hnode⟩ := Disk.read_eq_ok_iff.mp hread
    simp only [discover, hplace, hnode]
  have hfiles : loadFiles room disk [path] = ([(path, file)], none) := by
    rw [loadFiles, hload, loadFiles]
  have hanswer := answer_loadIndex_of_usable hdiscover hfiles
  simp only [run, hanswer]

end States

/-- Let two files state the same object, up to another spelling of some keys of facts that have one
spelling only of each field. Either both are accepted, state the same facts and lead to the same
flows, or both are refused with as many flaws, for the same problems in the same order. -/
theorem load_respelled (room : Nat) {disk other : Disk} {path : Path}
    {members others : List (Text × Json)} (hdisk : States room disk path members)
    (hother : States room other path others) (h : Respelled members others) :
    (∃ file, load room disk path = .ok file ∧ load room other path = .ok file ∧
        ∀ settings outages, ∃ summary,
          (run settings room disk outages path).answer = .ok summary ∧
            (run settings room other outages path).answer = .ok summary) ∨
      ∃ first more first' more',
        load room disk path = .error (.unusable path (.invalidEntries first more)) ∧
          load room other path = .error (.unusable path (.invalidEntries first' more')) ∧
          more.length = more'.length ∧
          (first :: more).map Flaw.problem = (first' :: more').map Flaw.problem := by
  rcases Checked.valid_or_flawed_of_outline (outline_ofMembers h) with
    ⟨file, hvalid, hvalid'⟩ | ⟨first, more, first', more', hflawed, hflawed', hproblems⟩
  · exact .inl ⟨file, hdisk.load_eq_of_valid hvalid, hother.load_eq_of_valid hvalid',
      fun settings outages => ⟨_, hdisk.run_eq hvalid settings outages,
        hother.run_eq hvalid' settings outages⟩⟩
  · have hlength : more.length + 1 = more'.length + 1 := by
      simpa using congrArg List.length hproblems
    exact .inr ⟨first, more, first', more', hdisk.load_eq_of_flawed hflawed,
      hother.load_eq_of_flawed hflawed', Nat.succ.inj hlength, hproblems⟩

/-! ## One class in both spellings -/

/-- A file with one class and the place of its declaration, under a key that may be spelled either
way. -/
def placedMembers (key : Text) : List (Text × Json) :=
  [("classes", .list [.object [("name", .text "A"), (key, .text "A.java:1")]])]

/-- The text of this file. -/
def placedText (key : String) : List Char :=
  ("\x7b\x22classes\x22:[\x7b\x22name\x22:\x22A\x22,\x22" ++ key ++
    "\x22:\x22A.java:1\x22\x7d]\x7d").toList

/-- A disk with this file. -/
def placedDisk (key : String) : Disk where
  home := []
  nodes := [(["a.facts.json"],
    .file ((placedText key).map fun c => UInt8.ofNat c.toNat))]

/-- The place is read under either key. -/
theorem load_respelled_placed :
    let path : Path := ⟨.relative, ["a.facts.json"]⟩
    let disk := placedDisk "sourceLocation"
    let other := placedDisk "source_location"
    States 983 disk path (placedMembers "sourceLocation") ∧
      States 983 other path (placedMembers "source_location") ∧
      Respelled (placedMembers "sourceLocation") (placedMembers "source_location") ∧
      ∃ file, load 983 disk path = .ok file ∧ load 983 other path = .ok file ∧
        file.classes.map (·.sourceLocation) = [some (Text.ofString "A.java:1")] := by
  intro path disk other
  have hplace : ∀ key, (placedDisk key).read path =
      .ok ((placedText key).map fun c => UInt8.ofNat c.toNat) := fun key =>
    Disk.read_eq_ok_iff.mpr ⟨["a.facts.json"], rfl, rfl⟩
  have hdisk : States 983 disk path (placedMembers "sourceLocation") :=
    ⟨_, placedText "sourceLocation", hplace _, by cbv, by cbv⟩
  have hother : States 983 other path (placedMembers "source_location") :=
    ⟨_, placedText "source_location", hplace _, by cbv, by cbv⟩
  let spell (key : Text) : Text :=
    if key = Text.ofString "sourceLocation" then "source_location" else key
  have hspell : Respelling ClassFact.fields spell := by
    intro key hkey
    by_cases hcamel : key = Text.ofString "sourceLocation"
    · subst hcamel
      exact ⟨ClassFact.sourceLocationField, by decide, by decide, by decide⟩
    · exact absurd (if_neg hcamel) hkey
  have hclass : ClassFact.Respelled
      (.object [("name", .text "A"), ("sourceLocation", .text "A.java:1")])
      (.object [("name", .text "A"), ("source_location", .text "A.java:1")]) :=
    .object ⟨by decide, spell, hspell, .cons ⟨by decide, rfl⟩ (.cons ⟨by decide, rfl⟩ .nil)⟩
  have hrespelled : Respelled (placedMembers "sourceLocation")
      (placedMembers "source_location") :=
    ⟨by decide, id, fun _ hkey => absurd rfl hkey,
      .cons ⟨rfl, .inr (.inl ⟨rfl, .list (.cons hclass .nil)⟩)⟩ .nil⟩
  refine ⟨hdisk, hother, hrespelled, ?_⟩
  rcases load_respelled 983 hdisk hother hrespelled with
    ⟨file, hfile, hfile', -⟩ | ⟨first, more, first', more', hflawed, -⟩
  · have hread := hfile
    rw [hdisk.load_eq_of_valid rfl] at hread
    obtain rfl := Except.ok.inj hread
    exact ⟨_, hfile, hfile', rfl⟩
  · rw [hdisk.load_eq_of_valid rfl] at hflawed
    cases hflawed

end FactFile

end FlowDiagram
