import FlowDiagram.Number.Binary
import FlowDiagram.Schema.Checked
import FlowDiagram.Schema.Numeral

/-!
# Reading fields

What counts as a text, a boolean, an integer or a list when a JSON value is read, and how a
field is found in an object.

## Main definitions

* `Schema.text`, `Schema.boolean`, `Schema.integer`, `Schema.listOf`: readers of one value.
* `FieldName`: a field with its two accepted spellings.
* `required`, `optional`: readers of one field.
-/

namespace FlowDiagram.Schema

/-- Reads a text. Numbers and other values are not converted. -/
def text : Json → Checked Text
  | .text content => .valid content
  | _ => .fail .notText

/-- Reads a text that is looked into, which cannot be done when it holds surrogates. -/
def wholeText (json : Json) : Checked Text :=
  (text json).andThen fun content =>
    if content.any CodePoint.isSurrogate then .fail .brokenText else .valid content

/-- Reads a text with at least one character. -/
def nonEmptyText (json : Json) : Checked { content : Text // content ≠ [] } :=
  (wholeText json).andThen fun content =>
    if h : content ≠ [] then .valid ⟨content, h⟩ else .fail .emptyText

/-- Reads a text or null. -/
def nullableText : Json → Checked (Option Text)
  | .null => .valid none
  | json => (text json).map some

/-- Reads a list whose items are read alike. -/
def listOf {α : Type} (read : Json → Checked α) : Json → Checked (List α)
  | .list items => Checked.items read 0 items
  | _ => .fail .notList

/-- The words for false. -/
def falseWords : List Text := ["0", "off", "f", "false", "n", "no"]

/-- The words for true. -/
def trueWords : List Text := ["1", "on", "t", "true", "y", "yes"]

/-- Whether an integer fits 64 bits. -/
def isWord (n : Int) : Bool :=
  decide (-9223372036854775808 ≤ n ∧ n ≤ 9223372036854775807)

/-- Whether a whole number written with a fraction or an exponent is taken for an integer: it has
to lie inside the range of 64 bits, whose ends do not count. -/
def isInnerWord (n : Int) : Bool :=
  decide (-9223372036854775808 < n ∧ n < 9223372036854775808)

/-- The number that a numeral means, with its sign, when it is whole; `none` stands for a fraction
and the error for a number out of range. -/
def wholeValue (value : Decimal) : Except Unit (Option Int) :=
  match Binary.ofDecimal value with
  | none => .error ()
  | some binary =>
    .ok (binary.toNat?.map fun n => if value.negative then -(n : Int) else n)

/-- Reads a boolean: a JSON boolean, a number equal to zero or one, or one of the words. -/
def boolean : Json → Checked Bool
  | .bool b => .valid b
  | .integer n =>
    if n = 0 then .valid false
    else if n = 1 then .valid true
    else if isWord n then .fail .unclearBoolean else .fail .notBoolean
  | .decimal d =>
    match wholeValue d with
    | .ok (some 0) => .valid false
    | .ok (some 1) => .valid true
    | .ok (some n) => if isInnerWord n then .fail .unclearBoolean else .fail .notBoolean
    | _ => .fail .notBoolean
  | .text content => (wholeText (.text content)).andThen fun content =>
    let word := Text.lowerAscii content
    if falseWords.contains word then .valid false
    else if trueWords.contains word then .valid true
    else .fail .unclearBoolean
  | _ => .fail .notBoolean

/-- Reads an integer: a JSON integer, a boolean, a numeral whose value is whole, or a written
integer. -/
def integer : Json → Checked Int
  | .bool b => .valid (if b then 1 else 0)
  | .integer n => .valid n
  | .decimal d =>
    match wholeValue d with
    | .error _ => .fail .infiniteInteger
    | .ok none => .fail .fractionalInteger
    | .ok (some n) => if isInnerWord n then .valid n else .fail .oversizedInteger
  | .notANumber => .fail .infiniteInteger
  | .infinity _ => .fail .infiniteInteger
  | .text content => (wholeText (.text content)).andThen fun content =>
    match Numeral.read content with
    | .value n => .valid n
    | .oversized => .fail .oversizedInteger
    | .unclear => .fail .unclearInteger
  | _ => .fail .notInteger

/-- A field of a record: its main spelling and one more that is accepted in its place. -/
structure FieldName where
  camel : String
  snake : String
  deriving DecidableEq, Repr

/-- A field with a single spelling. -/
def FieldName.plain (name : String) : FieldName := ⟨name, name⟩

/-- The spelling under which a field is found, and its value. The main spelling wins, even when
its value is null. -/
def FieldName.find? (field : FieldName) (members : List (Text × Json)) : Option (String × Json) :=
  match Json.lookup field.camel members with
  | some json => some (field.camel, json)
  | none => (Json.lookup field.snake members).map (field.snake, ·)

/-- Reads a field that has to be there. The place of a flaw is the spelling that was found; a field
that is missing is missed under its main spelling. -/
def required {α : Type} (field : FieldName) (read : Json → Checked α)
    (members : List (Text × Json)) : Checked α :=
  match field.find? members with
  | some (spelling, json) => (read json).under (.key spelling)
  | none => (Checked.fail .missing).under (.key field.camel)

/-- Reads a field that has a value to fall back to. -/
def optional {α : Type} (field : FieldName) (fallback : α) (read : Json → Checked α)
    (members : List (Text × Json)) : Checked α :=
  match field.find? members with
  | some (spelling, json) => (read json).under (.key spelling)
  | none => .valid fallback

/-- Reads a record from the members of an object. -/
def record {α : Type} (kind : String) (read : List (Text × Json) → Checked α) :
    Json → Checked α
  | .object members => read members
  | _ => .fail (.notRecord kind)

end FlowDiagram.Schema
