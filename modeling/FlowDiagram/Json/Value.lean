import FlowDiagram.Text.Basic

/-!
# JSON values

The values that a JSON document holds. Numbers are kept exactly as they are written.

## Main definitions

* `Json`: a JSON value.
* `Json.field?`: the value of an object's key.
-/

namespace FlowDiagram

/-- A number written with a fraction or an exponent: `digits * 10 ^ exponent`, negated or not. -/
structure Decimal where
  negative : Bool
  digits : Nat
  exponent : Int
  deriving DecidableEq, Repr

/-- A JSON value. Numbers without fraction and exponent are integers of any size; the special
numbers are accepted as well. -/
inductive Json where
  | null
  | bool (value : Bool)
  | integer (value : Int)
  | decimal (value : Decimal)
  | notANumber
  | infinity (negative : Bool)
  | text (content : Text)
  | list (items : List Json)
  | object (members : List (Text × Json))

namespace Json

/-- A list of JSON texts. -/
def ofTexts (texts : List Text) : Json :=
  .list (texts.map .text)

/-- A natural number. -/
def ofNat (n : Nat) : Json :=
  .integer n

/-- A text that may be missing. -/
def ofText? : Option Text → Json
  | none => .null
  | some content => .text content

/-- An object with the given keys, in order. -/
def ofMembers (members : List (String × Json)) : Json :=
  .object (members.map fun member => (member.1, member.2))

/-- The value of the last member with a key: a later duplicate replaces an earlier one. -/
def lookup (key : Text) (members : List (Text × Json)) : Option Json :=
  members.foldl (fun found member => if member.1 = key then some member.2 else found) none

/-- The value of a key of an object. -/
def field? (key : Text) : Json → Option Json
  | .object members => lookup key members
  | _ => none

/-- The content of a JSON text. -/
def text? : Json → Option Text
  | .text content => some content
  | _ => none

end Json

end FlowDiagram
