import FlowDiagram.Json.Value
import FlowDiagram.Text.Quoted

/-!
# Writing JSON

JSON is written in ASCII: every other character is escaped by its UTF-16 units. A document is
written on one line, or with every item on a line of its own, indented by two spaces per level.

## Main definitions

* `Json.compact`: a value on one line.
* `Json.pretty`: a value over several lines.
-/

namespace FlowDiagram.Json

/-- The escape of one UTF-16 unit. -/
def escapedUnit (unit : Nat) : String :=
  String.ofList (Text.backslash :: 'u' :: Text.hexDigits 4 unit)

/-- How a code point is written inside a JSON text. -/
def writePoint (c : CodePoint) : String :=
  let point := c.toNat
  if point = 0x22 then String.ofList [Text.backslash, Text.doubleQuote]
  else if point = 0x5C then String.ofList [Text.backslash, Text.backslash]
  else if point = 0x0A then "\\n"
  else if point = 0x0D then "\\r"
  else if point = 0x09 then "\\t"
  else if point = 0x0C then "\\f"
  else if point = 0x08 then "\\b"
  else if 0x20 ≤ point ∧ point ≤ 0x7E then String.singleton (Char.ofNat point)
  else if point ≤ 0xFFFF then escapedUnit point
  else
    let offset := point - 0x10000
    escapedUnit (0xD800 + offset / 0x400) ++ escapedUnit (0xDC00 + offset % 0x400)

/-- A JSON text with its quotes. -/
def writeText (content : Text) : String :=
  let quote := String.singleton Text.doubleQuote
  quote ++ String.join (content.map writePoint) ++ quote

/-- A decimal number by its digits and its exponent. -/
def writeDecimal (value : Decimal) : String :=
  (if value.negative then "-" else "") ++ s!"{value.digits}e{value.exponent}"

/-- A value that holds no others. -/
def writeAtom : Json → String
  | .null => "null"
  | .bool true => "true"
  | .bool false => "false"
  | .integer n => toString n
  | .decimal d => writeDecimal d
  | .notANumber => "NaN"
  | .infinity negative => if negative then "-Infinity" else "Infinity"
  | .text content => writeText content
  | .list _ => "[]"
  | .object _ => "\x7b\x7d"

mutual

/-- A value on one line. -/
def compact : Json → String
  | .list items => "[" ++ ", ".intercalate (compactItems items) ++ "]"
  | .object members => "\x7b" ++ ", ".intercalate (compactMembers members) ++ "\x7d"
  | atom => writeAtom atom

/-- The items of a list, each on one line. -/
def compactItems : List Json → List String
  | [] => []
  | item :: items => compact item :: compactItems items

/-- The members of an object, each on one line. -/
def compactMembers : List (Text × Json) → List String
  | [] => []
  | (key, value) :: members => (writeText key ++ ": " ++ compact value) :: compactMembers members

end

/-- A line break followed by the indentation of a level. -/
def newline (level : Nat) : String :=
  "\n" ++ String.ofList (List.replicate (2 * level) ' ')

mutual

/-- A value over several lines, at a level of indentation. Empty containers stay on one line. -/
def prettyAt (level : Nat) : Json → String
  | .list [] => "[]"
  | .list (item :: items) =>
    "[" ++ newline (level + 1) ++
      ("," ++ newline (level + 1)).intercalate (prettyItems (level + 1) (item :: items)) ++
      newline level ++ "]"
  | .object [] => "\x7b\x7d"
  | .object (member :: members) =>
    "\x7b" ++ newline (level + 1) ++
      ("," ++ newline (level + 1)).intercalate (prettyMembers (level + 1) (member :: members)) ++
      newline level ++ "\x7d"
  | atom => writeAtom atom

/-- The items of a list, each at a level of indentation. -/
def prettyItems (level : Nat) : List Json → List String
  | [] => []
  | item :: items => prettyAt level item :: prettyItems level items

/-- The members of an object, each at a level of indentation. -/
def prettyMembers (level : Nat) : List (Text × Json) → List String
  | [] => []
  | (key, value) :: members =>
    (writeText key ++ ": " ++ prettyAt level value) :: prettyMembers level members

end

/-- A value over several lines. -/
def pretty (value : Json) : String :=
  prettyAt 0 value

end FlowDiagram.Json
