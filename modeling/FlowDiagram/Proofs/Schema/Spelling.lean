import FlowDiagram.Schema.Field
import Mathlib.Data.List.Forall2

/-!
# Spellings of keys

A field is found under either of its spellings. If an object has one of them only, it does not
matter which one it is: a key may be given the other spelling, and the same value is found. What
shows is the place of a flaw, which names the spelling that was found; so values are read alike up
to the places of their flaws.

## Main definitions

* `Checked.outline`: what was read, with the problems of the flaws but not their places.
* `Schema.Respelling`: each key stays or gets another spelling of its field.
* `Schema.MembersRespelled`, `Schema.RecordRespelled`, `Schema.ListRespelled`: objects with some keys
  spelled in another way, records, and lists of them.

`MembersRespelled.outline_required` and `MembersRespelled.outline_optional` say that fields are read
alike.
-/

namespace FlowDiagram

/-- A later member with the key is found first. -/
theorem Json.lookup_cons (key : Text) (member : Text × Json) (members : List (Text × Json)) :
    Json.lookup key (member :: members) =
      (Json.lookup key members).or (if member.1 = key then some member.2 else none) := by
  have hfold : ∀ found : Option Json,
      members.foldl (fun found member => if member.1 = key then some member.2 else found) found =
        (Json.lookup key members).or found := by
    unfold Json.lookup
    induction members with
    | nil => exact fun _ => rfl
    | cons other others ih =>
      intro found
      rw [List.foldl_cons, List.foldl_cons, ih, ih (if other.1 = key then _ else none),
        Option.or_assoc]
      split <;> rfl
  exact hfold _

theorem Json.lookup_eq_none_iff {key : Text} {members : List (Text × Json)} :
    Json.lookup key members = none ↔ key ∉ members.map Prod.fst := by
  induction members with
  | nil => simp [Json.lookup]
  | cons member members ih =>
    rw [Json.lookup_cons, Option.or_eq_none_iff, ih, List.map_cons, List.mem_cons, not_or, and_comm]
    simp [eq_comm]

namespace Schema

/-! ## Outlines -/

namespace Checked

variable {α β γ : Type}

/-- What was read, or the problems of the flaws without their places. -/
def outline : Checked α → Except (List Problem) α
  | .valid a => .ok a
  | .flawed first others => .error ((first :: others).map Flaw.problem)

theorem outline_under (step : Step) (a : Checked α) : (a.under step).outline = a.outline := by
  cases a with
  | valid => rfl
  | flawed first others => simp [under, outline, Flaw.under, Function.comp_def]

theorem outline_map (f : α → β) (a : Checked α) : (a.map f).outline = a.outline.map f := by
  cases a <;> rfl

variable {a a' : Checked α} {b b' : Checked β}

theorem outline_andThen (h : a.outline = a'.outline) (f : α → Checked β) :
    (a.andThen f).outline = (a'.andThen f).outline := by
  cases a <;> cases a' <;> simp_all [andThen, outline]

theorem outline_both (ha : a.outline = a'.outline) (hb : b.outline = b'.outline) :
    (both a b).outline = (both a' b').outline := by
  cases a <;> cases a' <;> cases b <;> cases b' <;> simp_all [both, outline]

/-- Lists are read alike if their items are. -/
theorem outline_items {read : α → Checked β} {as bs : List α}
    (h : List.Forall₂ (fun a b => (read a).outline = (read b).outline) as bs) (position : Nat) :
    (items read position as).outline = (items read position bs).outline := by
  induction h generalizing position with
  | nil => rfl
  | cons hitem _ ih =>
    rw [items, items, outline_map, outline_map]
    refine congrArg _ (outline_both ?_ (ih _))
    rw [outline_under, outline_under, hitem]

/-- Values that are read alike are both valid and the same, or both have flaws, with the same
problems in the same order. -/
theorem valid_or_flawed_of_outline (h : a.outline = a'.outline) :
    (∃ value, a = .valid value ∧ a' = .valid value) ∨
      ∃ first others first' others', a = .flawed first others ∧ a' = .flawed first' others' ∧
        (first :: others).map Flaw.problem = (first' :: others').map Flaw.problem := by
  cases a with
  | valid value =>
    cases a' with
    | valid value' => exact .inl ⟨value, rfl, congrArg Checked.valid (Except.ok.inj h).symm⟩
    | flawed => cases h
  | flawed first others =>
    cases a' with
    | valid => cases h
    | flawed first' others' => exact .inr ⟨_, _, _, _, rfl, rfl, Except.error.inj h⟩

end Checked

/-! ## Fields -/

namespace FieldName

/-- The spellings of a field. -/
def spellings (field : FieldName) : List Text :=
  [field.camel, field.snake]

/-- The value of the last member whose key spells a field, in one way or the other. -/
def value? (field : FieldName) : List (Text × Json) → Option Json
  | [] => none
  | member :: members =>
    (field.value? members).or
      (if field.spellings.contains member.1 then some member.2 else none)

/-- If a single spelling counts for an object, its value is that of the field. -/
theorem value?_eq_lookup {field : FieldName} {spelling : Text} {members : List (Text × Json)}
    (h : ∀ member ∈ members, member.1 ∈ field.spellings ↔ member.1 = spelling) :
    field.value? members = Json.lookup spelling members := by
  induction members with
  | nil => rfl
  | cons member members ih =>
    obtain ⟨hmember, hmembers⟩ := List.forall_mem_cons.mp h
    rw [value?, Json.lookup_cons, ih hmembers]
    simp only [List.contains_iff_mem, hmember]

end FieldName

/-- An object does not have two spellings of one field. -/
def OneSpelling (fields : List FieldName) (members : List (Text × Json)) : Prop :=
  ∀ field ∈ fields, ∀ member ∈ members, ∀ other ∈ members,
    member.1 ∈ field.spellings → other.1 ∈ field.spellings → member.1 = other.1

instance (fields : List FieldName) (members : List (Text × Json)) :
    Decidable (OneSpelling fields members) :=
  inferInstanceAs (Decidable (∀ field ∈ fields, ∀ member ∈ members, ∀ other ∈ members,
    member.1 ∈ field.spellings → other.1 ∈ field.spellings → member.1 = other.1))

/-- Different fields have different spellings. -/
def SpellingsDiffer (fields : List FieldName) : Prop :=
  ∀ field ∈ fields, ∀ other ∈ fields, field ≠ other → ∀ key ∈ field.spellings,
    key ∉ other.spellings

instance (fields : List FieldName) : Decidable (SpellingsDiffer fields) :=
  inferInstanceAs (Decidable (∀ field ∈ fields, ∀ other ∈ fields, field ≠ other →
    ∀ key ∈ field.spellings, key ∉ other.spellings))

/-- Keys in another spelling: each key stays or gets another spelling of its field. -/
def Respelling (fields : List FieldName) (spell : Text → Text) : Prop :=
  ∀ key, spell key ≠ key → ∃ field ∈ fields, key ∈ field.spellings ∧ spell key ∈ field.spellings

/-- A spelling of a field is given a spelling of this field, and no other key is. -/
theorem Respelling.mem_spellings_iff {fields : List FieldName} {spell : Text → Text}
    (h : Respelling fields spell) (hdiffer : SpellingsDiffer fields) {field : FieldName}
    (hfield : field ∈ fields) (key : Text) :
    spell key ∈ field.spellings ↔ key ∈ field.spellings := by
  by_cases hkey : spell key = key
  · rw [hkey]
  · obtain ⟨other, hother, hold, hnew⟩ := h key hkey
    by_cases hsame : field = other
    · subst hsame
      exact iff_of_true hnew hold
    · exact iff_of_false (fun hin => hdiffer field hfield other hother hsame _ hin hnew)
        fun hin => hdiffer field hfield other hother hsame _ hin hold

section OneSpelling

variable {fields : List FieldName} {members : List (Text × Json)} {field : FieldName}

/-- A field is found under either of its spellings if an object has one of them only. -/
theorem OneSpelling.find?_eq (h : OneSpelling fields members) (hfield : field ∈ fields) :
    (field.find? members).map Prod.snd = field.value? members := by
  rw [FieldName.find?]
  cases hcamel : Json.lookup field.camel members with
  | some json =>
    obtain ⟨found, hfound, hkey⟩ : ∃ found ∈ members, found.1 = Text.ofString field.camel := by
      by_contra hnone
      have hnew : Text.ofString field.camel ∉ members.map Prod.fst := by simpa using hnone
      rw [Json.lookup_eq_none_iff.mpr hnew] at hcamel
      cases hcamel
    have hspelling : found.1 ∈ field.spellings := by
      rw [hkey]
      exact List.mem_cons_self
    have hvalue : field.value? members = Json.lookup field.camel members := by
      refine FieldName.value?_eq_lookup fun member hmember => ?_
      rw [← hkey]
      exact ⟨fun hmem => h field hfield member hmember found hfound hmem hspelling,
        fun heq => heq ▸ hspelling⟩
    rw [hvalue, hcamel, Option.map_some]
  | none =>
    have hnew := Json.lookup_eq_none_iff.mp hcamel
    have hvalue : field.value? members = Json.lookup field.snake members := by
      refine FieldName.value?_eq_lookup fun member hmember => ?_
      rw [FieldName.spellings, List.mem_pair]
      exact or_iff_right fun heq => hnew (heq ▸ List.mem_map_of_mem hmember)
    rw [hvalue, Option.map_map]
    exact Option.map_id'

end OneSpelling

/-! ## What is read under a field -/

section Read

variable {α : Type} (field : FieldName) (read : Json → Checked α) (members : List (Text × Json))

theorem outline_required_eq :
    (required field read members).outline =
      ((field.find? members).map Prod.snd).elim (.error [.missing]) fun json =>
        (read json).outline := by
  unfold required
  cases field.find? members with
  | none => rfl
  | some found => exact Checked.outline_under _ _

theorem outline_optional_eq (fallback : α) :
    (optional field fallback read members).outline =
      ((field.find? members).map Prod.snd).elim (.ok fallback) fun json =>
        (read json).outline := by
  unfold optional
  cases field.find? members with
  | none => rfl
  | some found => exact Checked.outline_under _ _

end Read

section Rel

variable {α β γ : Type} {r : α → β → Prop} {a c : Option α} {b d : Option β}

theorem rel_or (h : Option.Rel r a b) (h' : Option.Rel r c d) :
    Option.Rel r (a.or c) (b.or d) := by
  cases h with
  | some hab => exact .some hab
  | none => exact h'

theorem elim_congr (h : Option.Rel r a b) {none : γ} {f : α → γ} {g : β → γ}
    (hsome : ∀ a b, r a b → f a = g b) : a.elim none f = b.elim none g := by
  cases h with
  | some hab => exact hsome _ _ hab
  | none => rfl

end Rel

/-! ## Objects in another spelling -/

/-- The members of an object, and the same members with some keys in another spelling. The object
has one spelling only of each field. Values may differ from those they stand for as their keys
allow. -/
structure MembersRespelled (fields : List FieldName) (values : Text → Json → Json → Prop)
    (members others : List (Text × Json)) : Prop where
  one : OneSpelling fields members
  spelled : ∃ spell, Respelling fields spell ∧
    List.Forall₂ (fun member other => other.1 = spell member.1 ∧ values member.1 member.2 other.2)
      members others

/-- A record, and the same record with some keys in another spelling; what is no object stays as it
is. -/
inductive RecordRespelled (fields : List FieldName) (values : Text → Json → Json → Prop) :
    Json → Json → Prop
  | same (json : Json) : RecordRespelled fields values json json
  | object {members others : List (Text × Json)}
    (h : MembersRespelled fields values members others) :
    RecordRespelled fields values (.object members) (.object others)

/-- A list, and the same list with some items in another form; what is no list stays as it is. -/
inductive ListRespelled (item : Json → Json → Prop) : Json → Json → Prop
  | same (json : Json) : ListRespelled item json json
  | list {items others : List Json} (h : List.Forall₂ item items others) :
    ListRespelled item (.list items) (.list others)

namespace MembersRespelled

variable {fields : List FieldName} {values : Text → Json → Json → Prop}
  {members others : List (Text × Json)} {field : FieldName}

/-- The object in another spelling does not have two spellings of one field, either. -/
theorem one_others (h : MembersRespelled fields values members others)
    (hdiffer : SpellingsDiffer fields) : OneSpelling fields others := by
  obtain ⟨hone, spell, hspell, hmembers⟩ := h
  have horigin : ∀ other ∈ others, ∃ member ∈ members, other.1 = spell member.1 := by
    clear hone
    induction hmembers with
    | nil => exact fun _ hother => nomatch hother
    | cons hmember _ ih =>
      intro other hother
      rcases List.mem_cons.mp hother with rfl | hother
      · exact ⟨_, List.mem_cons_self, hmember.1⟩
      · obtain ⟨member, hmem, hkey⟩ := ih other hother
        exact ⟨member, List.mem_cons_of_mem _ hmem, hkey⟩
  intro field hfield a ha b hb hin hin'
  obtain ⟨member, hmember, hkey⟩ := horigin a ha
  obtain ⟨member', hmember', hkey'⟩ := horigin b hb
  rw [hkey, hspell.mem_spellings_iff hdiffer hfield] at hin
  rw [hkey', hspell.mem_spellings_iff hdiffer hfield] at hin'
  rw [hkey, hkey', hone field hfield member hmember member' hmember' hin hin']

/-- Under a field the object in another spelling has the value that stands for the one before. -/
theorem rel_value? (h : MembersRespelled fields values members others)
    (hdiffer : SpellingsDiffer fields) (hfield : field ∈ fields) :
    Option.Rel (fun json other => ∃ key ∈ field.spellings, values key json other)
      (field.value? members) (field.value? others) := by
  obtain ⟨-, spell, hspell, hmembers⟩ := h
  induction hmembers with
  | nil => exact .none
  | @cons member other members others hmember _ ih =>
    obtain ⟨hkey, hvalue⟩ := hmember
    have hmem := hspell.mem_spellings_iff hdiffer hfield member.1
    rw [FieldName.value?, FieldName.value?, hkey]
    simp only [List.contains_iff_mem]
    refine rel_or ih ?_
    by_cases hin : member.1 ∈ field.spellings
    · rw [if_pos hin, if_pos (hmem.mpr hin)]
      exact .some ⟨_, hin, hvalue⟩
    · rw [if_neg hin, if_neg (mt hmem.mp hin)]
      exact .none

section Read

variable {α : Type} {read : Json → Checked α} (h : MembersRespelled fields values members others)
  (hdiffer : SpellingsDiffer fields) (hfield : field ∈ fields)
  (hread : ∀ key ∈ field.spellings, ∀ json other, values key json other →
    (read json).outline = (read other).outline)

include h hdiffer hfield hread

theorem outline_required :
    (required field read members).outline = (required field read others).outline := by
  rw [outline_required_eq, outline_required_eq, h.one.find?_eq hfield,
    (h.one_others hdiffer).find?_eq hfield]
  exact elim_congr (h.rel_value? hdiffer hfield) fun json other ⟨key, hkey, hvalue⟩ =>
    hread key hkey json other hvalue

theorem outline_optional (fallback : α) :
    (optional field fallback read members).outline =
      (optional field fallback read others).outline := by
  rw [outline_optional_eq, outline_optional_eq, h.one.find?_eq hfield,
    (h.one_others hdiffer).find?_eq hfield]
  exact elim_congr (h.rel_value? hdiffer hfield) fun json other ⟨key, hkey, hvalue⟩ =>
    hread key hkey json other hvalue

end Read

end MembersRespelled

section Values

variable {fields : List FieldName} {values : Text → Json → Json → Prop} {α : Type}

/-- A record in another spelling is read alike if its members are. -/
theorem RecordRespelled.outline_record {json other : Json} (h : RecordRespelled fields values json other)
    (kind : String) {read : List (Text × Json) → Checked α}
    (hread : ∀ members others, MembersRespelled fields values members others →
      (read members).outline = (read others).outline) :
    (record kind read json).outline = (record kind read other).outline := by
  cases h with
  | same => rfl
  | object h => exact hread _ _ h

/-- A list of records in another spelling is read alike if its items are. -/
theorem ListRespelled.outline_listOf {item : Json → Json → Prop} {json other : Json}
    (h : ListRespelled item json other) {read : Json → Checked α}
    (hread : ∀ json other, item json other → (read json).outline = (read other).outline) :
    (listOf read json).outline = (listOf read other).outline := by
  cases h with
  | same => rfl
  | list h => exact Checked.outline_items (h.imp hread) 0

end Values

end Schema

end FlowDiagram
