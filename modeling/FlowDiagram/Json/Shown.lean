import FlowDiagram.Number.Shortest
import FlowDiagram.Text.Quoted

/-!
# Values in messages

How a value is shown in a message: a text as it is, and quoted inside lists and objects; numbers
with the fewest digits that mean them.

## Main definitions

* `Json.shown`: a value as it is shown.
* `Json.kindName`: how the kind of a value is called.
-/

namespace FlowDiagram.Json

/-- A number with a fraction or an exponent as it is shown. -/
def shownDecimal (value : Decimal) : String :=
  (if value.negative then "-" else "") ++ ((Binary.ofDecimal value).map Binary.text).getD "inf"

/-- A value that holds no others as it is shown inside lists and objects. -/
def shownAtom : Json → Text
  | .null => "None"
  | .bool true => "True"
  | .bool false => "False"
  | .integer n => .ofString (toString n)
  | .decimal d => .ofString (shownDecimal d)
  | .notANumber => "nan"
  | .infinity negative => if negative then "-inf" else "inf"
  | .text content => Text.quoted content
  | .list _ => "[]"
  | .object _ => "\x7b\x7d"

mutual

/-- A value as it is shown inside lists and objects. -/
def shownInside : Json → Text
  | .list items => "[" ++ Text.joined ", " (shownItems items) ++ "]"
  | .object members => "\x7b" ++ Text.joined ", " (shownMembers members) ++ "\x7d"
  | atom => shownAtom atom

/-- The items of a list as they are shown. -/
def shownItems : List Json → List Text
  | [] => []
  | item :: items => shownInside item :: shownItems items

/-- The members of an object as they are shown. -/
def shownMembers : List (Text × Json) → List Text
  | [] => []
  | (key, value) :: members =>
    (Text.quoted key ++ ": " ++ shownInside value) :: shownMembers members

end

/-- A value as it is shown. -/
def shown : Json → Text
  | .text content => content
  | value => shownInside value

/-- How the kind of a value is called in messages. -/
def kindName : Json → String
  | .null => "NoneType"
  | .bool _ => "bool"
  | .integer _ => "int"
  | .decimal _ | .notANumber | .infinity _ => "float"
  | .text _ => "str"
  | .list _ => "list"
  | .object _ => "dict"

end FlowDiagram.Json
