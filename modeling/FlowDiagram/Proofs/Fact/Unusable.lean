import FlowDiagram.Fact.Loading
import FlowDiagram.Proofs.Text.Lossless

/-!
# Fact files that cannot be used

A fact file that cannot be used is reported with its path and the reason. This holds for files that
cannot be read, for documents that are no JSON, and for JSON that states no facts. It does not hold
for three kinds of files, which end the loading with an error that is about something else: the path
cannot be passed on to the system, the bytes are not UTF-8, or the document exceeds a limit of the
reader.

## Main definitions

* `Path.IsPassable`: a path can be passed on to the system.
* `FactFile.Accounted`: a file has facts, or it is reported with its path.
* `FactFile.Escapes`: a file ends the loading without a report.

`FactFile.accounted_load_iff` is the main result: files that do not escape are accounted for, and no
others.
-/

namespace FlowDiagram

/-- A path can be passed on to the system: every code point of it has bytes, and none is the NUL
that ends a path there. -/
structure Path.IsPassable (path : Path) : Prop where
  hasBytes : ∀ c ∈ path.text, c.isSurrogate = true → Text.Raw.isByte c = true
  noEnd : .char '\x00' ∉ path.text

/-! ## Reading -/

namespace Disk

variable {disk : Disk} {path : Path} {error : FileError}

/-- A path that cannot be passed on is refused without a number, and no other is. -/
theorem screen_cases (path : Path) :
    path.IsPassable ∧ (screen path.text = .ok () ∨ screen path.text = .error .nameTooLong) ∨
      ¬ path.IsPassable ∧
        ∃ error, screen path.text = .error error ∧ error.number?.isSome = false := by
  have hbytes : Text.Raw.unwritable? path.text = none ↔
      ∀ c ∈ path.text, c.isSurrogate = true → Text.Raw.isByte c = true := by
    rw [Text.Raw.unwritable?, Text.Utf8.firstOutside_eq_none_iff]
    simp only [Bool.or_eq_true, Bool.not_eq_true', ← Bool.not_eq_true, imp_iff_not_or]
  unfold screen
  split
  · rename_i fault hfault
    refine Or.inr ⟨fun hpath => ?_, _, rfl, rfl⟩
    rw [hbytes.mpr hpath.hasBytes] at hfault
    cases hfault
  · rename_i hwritable
    split
    · rename_i hnul
      exact Or.inr ⟨fun hpath => hpath.noEnd (List.contains_iff_mem.mp hnul), _, rfl, rfl⟩
    · rename_i hnul
      refine Or.inl ⟨⟨hbytes.mp hwritable, mt List.contains_iff_mem.mpr hnul⟩, ?_⟩
      split
      · exact Or.inr rfl
      · exact Or.inl rfl

/-- What is wrong on the way has a number. -/
theorem number?_of_locateFrom {base : Place} {names : List Text}
    (h : disk.locateFrom base names = .error error) : error.number?.isSome = true := by
  induction names generalizing base with
  | nil => cases h
  | cons name names ih =>
    rw [locateFrom] at h
    split at h
    · cases h
      rfl
    · cases h
      rfl
    · split at h
      · exact ih h
      · split at h
        · exact ih h
        · split at h
          · cases h
            rfl
          · exact ih h

/-- A path that leads nowhere has a reason with a number, unless it cannot be passed on. -/
theorem number?_of_locate (h : disk.locate path = .error error) :
    error.number?.isSome = true ↔ path.IsPassable := by
  rw [locate] at h
  obtain ⟨hpath, hscreen | hscreen⟩ | ⟨hpath, fault, hscreen, hnumber⟩ := screen_cases path
  · rw [hscreen] at h
    exact iff_of_true (number?_of_locateFrom h) hpath
  · rw [hscreen] at h
    cases h
    exact iff_of_true rfl hpath
  · rw [hscreen] at h
    cases h
    exact iff_of_false (Bool.not_eq_true _ ▸ hnumber) hpath

theorem isPassable_of_locate {place : Place} (h : disk.locate path = .ok place) :
    path.IsPassable := by
  obtain ⟨hpath, -⟩ | ⟨-, fault, hscreen, -⟩ := screen_cases path
  · exact hpath
  · rw [locate, hscreen] at h
    cases h

theorem isPassable_of_read {bytes : List UInt8} (h : disk.read path = .ok bytes) :
    path.IsPassable := by
  cases hlocate : disk.locate path with
  | error fault =>
    rw [read, find, hlocate] at h
    cases h
  | ok place => exact isPassable_of_locate hlocate

/-- A file that cannot be read has a reason with a number, unless its path cannot be passed on. -/
theorem number?_of_read (h : disk.read path = .error error) :
    error.number?.isSome = true ↔ path.IsPassable := by
  rw [read, find] at h
  cases hlocate : disk.locate path with
  | error fault =>
    rw [hlocate] at h
    cases h
    exact number?_of_locate hlocate
  | ok place =>
    refine iff_of_true ?_ (isPassable_of_locate hlocate)
    rw [hlocate] at h
    simp only [bind, Except.bind] at h
    cases hnode : disk.node? place with
    | none =>
      rw [hnode] at h
      cases h
      rfl
    | some node =>
      rw [hnode] at h
      cases node with
      | file bytes => cases h
      | folder =>
        cases h
        rfl

end Disk

/-! ## Documents -/

namespace FactFile

variable {room : Nat} {disk : Disk} {path : Path}

/-- A file is accounted for by what comes of its loading: it has facts, or it is reported with its
path. -/
def Accounted (path : Path) (answer : Except LoadError FactFile) : Prop :=
  (∃ file, answer = .ok file) ∨ ∃ reason, answer = .error (.unusable path reason)

/-- A file escapes the report: its path cannot be passed on, its bytes are not the UTF-8 of any
characters, or its document exceeds a limit of the reader. -/
inductive Escapes (room : Nat) (disk : Disk) (path : Path) : Prop
  | path (impassable : ¬ path.IsPassable)
  | bytes (bytes : List UInt8) (found : disk.read path = .ok bytes)
      (undecodable : ∀ text : List Char, bytes ≠ text.flatMap String.utf8EncodeChar)
  | document (text : List Char) (excess : Json.Excess) (rest : List Char)
      (found : disk.read path = .ok (text.flatMap String.utf8EncodeChar))
      (exceeds : Json.read room (Text.Utf8.unifyNewlines text) = .error ⟨.excess excess, rest⟩)

/-- A document is accounted for unless it exceeds a limit of the reader. -/
theorem accounted_ofText_iff (text : List Char) :
    Accounted path (ofText room path text) ↔
      ∀ excess rest, Json.read room text ≠ .error ⟨.excess excess, rest⟩ := by
  unfold ofText
  split
  · rename_i excess rest hread
    refine iff_of_false ?_ fun h => h excess rest hread
    rintro (⟨_, h⟩ | ⟨_, h⟩) <;> cases h
  · rename_i stop hnoexcess hread
    refine iff_of_true (Or.inr ⟨_, rfl⟩) fun excess rest h => ?_
    exact hnoexcess excess rest (Except.error.inj (hread.symm.trans h))
  · rename_i members hread
    refine iff_of_true ?_ fun excess rest h => by cases hread.symm.trans h
    split
    · exact Or.inl ⟨_, rfl⟩
    · exact Or.inr ⟨_, rfl⟩
  · rename_i json _ hread
    exact iff_of_true (Or.inr ⟨_, rfl⟩) fun excess rest h => by
      cases hread.symm.trans h

theorem eq_of_ofText_unusable {other : Path} {reason : FactFileReason} {text : List Char}
    (h : ofText room path text = .error (.unusable other reason)) : other = path := by
  unfold ofText at h
  split at h
  · cases h
  · cases h
    rfl
  · split at h
    · cases h
    · cases h
      rfl
  · cases h
    rfl

/-- A report is about the file that was loaded. -/
theorem eq_of_load_unusable {other : Path} {reason : FactFileReason}
    (h : load room disk path = .error (.unusable other reason)) : other = path := by
  unfold load at h
  split at h
  · split at h <;> cases h
    rfl
  · rename_i bytes _
    cases hdecode : decodeText bytes with
    | error error =>
      rw [hdecode] at h
      obtain rfl := Except.error.inj h
      rw [decodeText] at hdecode
      split at hdecode <;> cases hdecode
    | ok text =>
      rw [hdecode] at h
      exact eq_of_ofText_unusable h

/-- A file that cannot be read is accounted for unless its path cannot be passed on. -/
theorem accounted_load_of_unreadable {error : FileError} (h : disk.read path = .error error) :
    Accounted path (load room disk path) ↔ path.IsPassable := by
  rw [← Disk.number?_of_read h]
  cases hnumber : error.number?.isSome with
  | true => exact iff_of_true (Or.inr ⟨.unreadable error, by simp [load, h, hnumber]⟩) rfl
  | false =>
    refine iff_of_false ?_ Bool.false_ne_true
    rintro (⟨_, hload⟩ | ⟨_, hload⟩) <;> simp [load, h, hnumber] at hload

theorem not_accounted_load_of_undecodable {bytes : List UInt8} {fault : Text.Utf8.Fault}
    (h : disk.read path = .ok bytes) (hdecode : Text.Utf8.decode bytes = .error fault) :
    ¬ Accounted path (load room disk path) := by
  simp only [load, h, decodeText, hdecode, Except.bind]
  rintro (⟨_, h⟩ | ⟨_, h⟩) <;> cases h

theorem accounted_load_of_decoded {bytes : List UInt8} {text : List Char}
    (h : disk.read path = .ok bytes) (hdecode : Text.Utf8.decode bytes = .ok text) :
    Accounted path (load room disk path) ↔
      ∀ excess rest,
        Json.read room (Text.Utf8.unifyNewlines text) ≠ .error ⟨.excess excess, rest⟩ := by
  simp only [load, h, decodeText, hdecode, Except.bind]
  exact accounted_ofText_iff _

/-- Files that do not escape are accounted for, and no others. -/
theorem accounted_load_iff (room : Nat) (disk : Disk) (path : Path) :
    Accounted path (load room disk path) ↔ ¬ Escapes room disk path := by
  constructor
  · rintro haccounted (hpath | ⟨bytes, hfound, hbytes⟩ | ⟨text, excess, rest, hfound, hexceeds⟩)
    · cases hread : disk.read path with
      | error error => exact hpath ((accounted_load_of_unreadable hread).mp haccounted)
      | ok bytes => exact hpath (Disk.isPassable_of_read hread)
    · cases hdecode : Text.Utf8.decode bytes with
      | error fault => exact not_accounted_load_of_undecodable hfound hdecode haccounted
      | ok text => exact hbytes text (Text.Utf8.decode_eq_ok_iff.mp hdecode)
    · have hdecode := Text.Utf8.decode_eq_ok_iff.mpr (Eq.refl (text.flatMap String.utf8EncodeChar))
      exact (accounted_load_of_decoded hfound hdecode).mp haccounted excess rest hexceeds
  · intro hescapes
    cases hread : disk.read path with
    | error error =>
      refine (accounted_load_of_unreadable hread).mpr ?_
      exact Classical.not_not.mp fun hpath => hescapes (.path hpath)
    | ok bytes =>
      cases hdecode : Text.Utf8.decode bytes with
      | error fault =>
        refine absurd (.bytes bytes hread fun text htext => ?_) hescapes
        rw [Text.Utf8.decode_eq_ok_iff.mpr htext] at hdecode
        cases hdecode
      | ok text =>
        refine (accounted_load_of_decoded hread hdecode).mpr fun excess rest hexceeds => ?_
        obtain rfl := Text.Utf8.decode_eq_ok_iff.mp hdecode
        exact hescapes (.document text excess rest hread hexceeds)

end FactFile

end FlowDiagram
