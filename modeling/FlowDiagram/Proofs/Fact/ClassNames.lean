import FlowDiagram.Fact.Loading
import FlowDiagram.Proofs.Fact.Winners

/-!
# Names of classes

The name of a class is a text that is looked into when it is read, and so has no surrogates. This is
a matter of the reader alone: what a reader ensures of the values that it accepts follows from what
its parts ensure.

## Main definitions

* `Checked.Ensures`: every value that was accepted has a property.

`FactFile.whole_of_load` and `FactIndex.mem_of_mem_entryPoints` are the main results: the names in a
file that was loaded have no surrogates, and the entry points of an index are classes that it was
built of.
-/

namespace FlowDiagram

namespace Schema

/-! ## What readers ensure -/

section Checked

variable {α β : Type}

/-- If a value was accepted, it has a property. -/
def Checked.Ensures (checked : Checked α) (P : α → Prop) : Prop :=
  ∀ value, checked = .valid value → P value

namespace Checked.Ensures

variable {P : α → Prop} {Q : β → Prop} {checked : Checked α}

theorem valid {value : α} (h : P value) : (Checked.valid value).Ensures P := by
  rintro _ ⟨⟩
  exact h

theorem trivial (checked : Checked α) : checked.Ensures fun _ => True :=
  fun _ _ => True.intro

theorem fail (problem : Problem) : (Checked.fail problem : Checked α).Ensures P := by
  rintro _ ⟨⟩

theorem mono {P' : α → Prop} (h : checked.Ensures P) (hP : ∀ value, P value → P' value) :
    checked.Ensures P' :=
  fun value hvalue => hP value (h value hvalue)

theorem under (h : checked.Ensures P) (step : Step) : (checked.under step).Ensures P := by
  cases checked with
  | valid => exact h
  | flawed => rintro _ ⟨⟩

theorem map {f : α → β} (h : checked.Ensures fun value => Q (f value)) :
    (checked.map f).Ensures Q := by
  cases checked with
  | valid value => exact valid (h value rfl)
  | flawed => rintro _ ⟨⟩

theorem andThen {f : α → Checked β} (h : checked.Ensures fun value => (f value).Ensures Q) :
    (checked.andThen f).Ensures Q := by
  cases checked with
  | valid value => exact h value rfl
  | flawed => rintro _ ⟨⟩

theorem both {other : Checked β} (h : checked.Ensures P) (h' : other.Ensures Q) :
    (Checked.both checked other).Ensures fun pair => P pair.1 ∧ Q pair.2 := by
  cases checked with
  | valid value =>
    cases other with
    | valid value' => exact valid ⟨h value rfl, h' value' rfl⟩
    | flawed => rintro _ ⟨⟩
  | flawed => cases other <;> rintro _ ⟨⟩

/-- The items of a list were accepted one by one. -/
theorem items {read : α → Checked β} (h : ∀ a, (read a).Ensures Q) (position : Nat)
    (as : List α) : (Checked.items read position as).Ensures fun bs => ∀ b ∈ bs, Q b := by
  induction as generalizing position with
  | nil => exact valid fun _ hmem => nomatch hmem
  | cons a as ih =>
    refine map (mono (both ((h a).under _) (ih _)) ?_)
    rintro ⟨b, bs⟩ ⟨hb, hbs⟩
    exact List.forall_mem_cons.mpr ⟨hb, hbs⟩

end Checked.Ensures

variable {P : α → Prop} {read : Json → Checked α}

theorem ensures_listOf (h : ∀ json, (read json).Ensures P) (json : Json) :
    (listOf read json).Ensures fun values => ∀ value ∈ values, P value := by
  unfold listOf
  split
  · exact .items h 0 _
  · exact .fail _

theorem ensures_record {kind : String} {ofMembers : List (Text × Json) → Checked α}
    (h : ∀ members, (ofMembers members).Ensures P) (json : Json) :
    (record kind ofMembers json).Ensures P := by
  unfold record
  split
  · exact h _
  · exact .fail _

theorem ensures_required (h : ∀ json, (read json).Ensures P) (field : FieldName)
    (members : List (Text × Json)) : (required field read members).Ensures P := by
  unfold required
  split
  · exact (h _).under _
  · exact (Checked.Ensures.fail _).under _

theorem ensures_optional (h : ∀ json, (read json).Ensures P) (field : FieldName) {fallback : α}
    (hfallback : P fallback) (members : List (Text × Json)) :
    (optional field fallback read members).Ensures P := by
  unfold optional
  split
  · exact (h _).under _
  · exact .valid hfallback

end Checked

/-- A text that was looked into has no surrogates. -/
theorem ensures_nonEmptyText (json : Json) :
    (nonEmptyText json).Ensures fun content => ∀ c ∈ content.val, c.isSurrogate = false := by
  have hwhole : (wholeText json).Ensures fun content => ∀ c ∈ content, c.isSurrogate = false := by
    refine .andThen fun content _ => ?_
    dsimp only
    split
    · exact .fail _
    · rename_i h
      simp only [List.any_eq_true, not_exists, not_and, Bool.not_eq_true] at h
      exact .valid h
  refine .andThen (hwhole.mono fun content hcontent => ?_)
  split
  · exact .valid hcontent
  · exact .fail _

end Schema

open Schema

/-! ## Classes -/

theorem ClassFact.ensures_ofMembers (members : List (Text × Json)) :
    (ClassFact.ofMembers members).Ensures fun fact => ∀ c ∈ fact.name, c.isSurrogate = false := by
  refine .map (.mono (.both (ensures_required ensures_nonEmptyText _ _) (.trivial _)) ?_)
  exact fun _ h => h.1

namespace FactFile

theorem ensures_ofMembers (members : List (Text × Json)) :
    (FactFile.ofMembers members).Ensures fun file =>
      ∀ fact ∈ file.classes, ∀ c ∈ fact.name, c.isSurrogate = false := by
  refine .map (.mono (.both (ensures_optional (ensures_listOf
    (ensures_record ClassFact.ensures_ofMembers)) _ ?_ _) (.trivial _)) ?_)
  · exact fun _ hmem => nomatch hmem
  · exact fun _ h => h.1

/-- The names of classes in a file that was loaded have no surrogates. -/
theorem whole_of_load {room : Nat} {disk : Disk} {path : Path} {file : FactFile}
    (h : load room disk path = .ok file) {fact : ClassFact} (hfact : fact ∈ file.classes) :
    ∀ c ∈ fact.name, c.isSurrogate = false := by
  unfold load at h
  split at h
  · cases h
  · rename_i bytes _
    cases htext : decodeText bytes with
    | error => simp [htext, Except.bind] at h
    | ok text =>
      rw [htext] at h
      simp only [Except.bind, ofText] at h
      split at h
      · cases h
      · cases h
      · split at h
        · rename_i hmembers
          cases h
          exact ensures_ofMembers _ file hmembers fact hfact
        · cases h
      · cases h

end FactFile

/-- The classes that start a flow are classes that the index was built of. -/
theorem FactIndex.mem_of_mem_entryPoints {classes : List ClassFact}
    {processors : List ProcessorFact} {supertype : Option Text} {fact : ClassFact}
    (h : fact ∈ (build classes processors).entryPoints supertype) : fact ∈ classes := by
  have hvalues : fact ∈ (build classes processors).classes.values := by
    unfold entryPoints at h
    rw [List.mem_mergeSort] at h
    split at h
    · exact List.mem_of_mem_filter h
    · split at h
      · exact List.mem_of_mem_filter h
      · exact List.mem_of_mem_filter (List.mem_of_mem_filter h)
  rw [(classesByName_build classes processors).mem_values_iff, class?_build, winner?] at hvalues
  exact List.mem_of_mem_filter (List.mem_of_getLast? hvalues)

end FlowDiagram
