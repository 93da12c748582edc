import FlowDiagram.Json.Value
import FlowDiagram.Text.Digit
import FlowDiagram.Text.Quoted

/-!
# Reading JSON

A reader for JSON documents that also takes `NaN`, `Infinity` and `-Infinity`. It stops at the
first fault and reports what was expected there and in which line. Integers of very many digits
and very deep nesting exceed the reader's limits, which is no fault of the grammar.

Every reader takes the characters from its position to the end of the document and gives back
those it leaves, so a position is known by the number of characters after it.

## Main definitions

* `Json.Excess`: a limit of the reader that a document exceeds.
* `Json.Fault`: what was wrong.
* `Json.Stop`: a fault, and how much of the document was still to come.
* `Json.read`: the value of a document.
* `Json.lineOf`: the line of a fault.
-/

namespace FlowDiagram.Json

/-- The two values that hold other values. -/
inductive Container
  | array
  | object
  deriving DecidableEq, Repr

/-- The name of a container. -/
def Container.name : Container → String
  | .array => "array"
  | .object => "object"

/-- A limit of the reader that a document exceeds: an integer has too many digits, or a container
lies too deep. -/
inductive Excess
  | digits (count : Nat)
  | depth (container : Container)
  deriving DecidableEq, Repr

/-- The wording of an excess. -/
def Excess.message : Excess → String
  | .digits count =>
    s!"Exceeds the limit ({Text.maxDigits} digits) for integer string conversion: value has " ++
      s!"{count} digits; use sys.set_int_max_str_digits() to increase the limit"
  | .depth container =>
    s!"maximum recursion depth exceeded while decoding a JSON {container.name} " ++
      "from a unicode string"

/-- What is wrong with a JSON document. -/
inductive Fault
  | expectedValue
  | expectedName
  | expectedColon
  | expectedComma
  | extraData
  | unterminatedText
  | controlCharacter
  | invalidEscape
  | invalidUnicodeEscape
  | byteOrderMark
  | excess (excess : Excess)
  deriving DecidableEq, Repr

/-- The wording of a fault. -/
def Fault.message : Fault → String
  | .expectedValue => "Expecting value"
  | .expectedName => "Expecting property name enclosed in double quotes"
  | .expectedColon => "Expecting ':' delimiter"
  | .expectedComma => "Expecting ',' delimiter"
  | .extraData => "Extra data"
  | .unterminatedText => "Unterminated string starting at"
  | .controlCharacter => "Invalid control character at"
  | .invalidEscape => "Invalid \\escape"
  | .invalidUnicodeEscape => "Invalid \\uXXXX escape"
  | .byteOrderMark => "Unexpected UTF-8 BOM (decode using utf-8-sig)"
  | .excess e => e.message

/-- A fault together with the characters from its position on. -/
structure Stop where
  fault : Fault
  remaining : List Char

/-- The four characters that may stand between tokens. -/
def isSpace (c : Char) : Bool :=
  c = ' ' || c = '\t' || c = '\n' || c = '\r'

/-- The characters after the white space in front. -/
def skipSpace (cs : List Char) : List Char :=
  cs.dropWhile isSpace

/-- The value of a hexadecimal digit. -/
def hexValue? (c : Char) : Option Nat :=
  if '0' ≤ c ∧ c ≤ '9' then some (c.toNat - '0'.toNat)
  else if 'a' ≤ c ∧ c ≤ 'f' then some (c.toNat - 'a'.toNat + 10)
  else if 'A' ≤ c ∧ c ≤ 'F' then some (c.toNat - 'A'.toNat + 10)
  else none

/-- The value of four hexadecimal digits. -/
def hexValue4? (a b c d : Char) : Option Nat := do
  let a ← hexValue? a
  let b ← hexValue? b
  let c ← hexValue? c
  let d ← hexValue? d
  pure (((a * 16 + b) * 16 + c) * 16 + d)

/-- The character that a one-letter escape stands for. -/
def shortEscape? (c : Char) : Option Char :=
  if c = Text.doubleQuote || c = Text.backslash || c = '/' then some c
  else if c = 'b' then some '\x08'
  else if c = 'f' then some '\x0c'
  else if c = 'n' then some '\n'
  else if c = 'r' then some '\r'
  else if c = 't' then some '\t'
  else none

/-- Joins a high surrogate and the low surrogate right after it into the code point they stand
for together. -/
def joinSurrogates : Text → Text
  | .surrogate high :: .surrogate low :: rest =>
    if high < 0x400 ∧ 0x400 ≤ low then
      .ofNat (0x10000 + high * 0x400 + (low - 0x400)) :: joinSurrogates rest
    else .surrogate high :: joinSurrogates (.surrogate low :: rest)
  | c :: rest => c :: joinSurrogates rest
  | [] => []

/-- Reads the characters of a text up to its closing quote; `opening` are the characters from the
opening quote on. A code point escape needs a character after its four digits. -/
def readTextFrom (opening : List Char) : List Char → Except Stop (Text × List Char)
  | [] => .error ⟨.unterminatedText, opening⟩
  | c :: rest =>
    if c = Text.doubleQuote then .ok ([], rest)
    else if c = Text.backslash then
      match rest with
      | [] => .error ⟨.unterminatedText, opening⟩
      | 'u' :: w :: x :: y :: z :: next :: after =>
        match hexValue4? w x y z with
        | some unit => do
          let (points, left) ← readTextFrom opening (next :: after)
          pure (.ofNat unit :: points, left)
        | none => .error ⟨.invalidUnicodeEscape, rest⟩
      | e :: after =>
        if e = 'u' then .error ⟨.invalidUnicodeEscape, rest⟩
        else match shortEscape? e with
          | some char => do
            let (points, left) ← readTextFrom opening after
            pure (.char char :: points, left)
          | none => .error ⟨.invalidEscape, c :: rest⟩
    else if c.toNat ≤ 0x1F then .error ⟨.controlCharacter, c :: rest⟩
    else do
      let (points, left) ← readTextFrom opening rest
      pure (.char c :: points, left)

/-- Reads a text after its opening quote. -/
def readText (rest : List Char) : Except Stop (Text × List Char) := do
  let (points, left) ← readTextFrom (Text.doubleQuote :: rest) rest
  pure (joinSurrogates points, left)

/-- The digits at the front, and what follows them. -/
def spanDigits (cs : List Char) : List Char × List Char :=
  (cs.takeWhile Char.isDigit, cs.dropWhile Char.isDigit)

/-- The number that decimal digits spell. -/
def digitsValue (digits : List Char) : Nat :=
  digits.foldl (fun value c => 10 * value + (c.toNat - '0'.toNat)) 0

/-- Reads a fraction, if one is there: a point with at least one digit after it. -/
def spanFraction : List Char → List Char × List Char
  | '.' :: rest =>
    match spanDigits rest with
    | ([], _) => ([], '.' :: rest)
    | (digits, left) => (digits, left)
  | cs => ([], cs)

/-- Reads an exponent, if one is there: the letter, an optional sign and at least one digit. -/
def spanExponent (cs : List Char) : Option (Int × List Char) :=
  match cs with
  | e :: rest =>
    if e = 'e' || e = 'E' then
      match rest with
      | '-' :: rest =>
        match spanDigits rest with
        | ([], _) => none
        | (digits, left) => some (-Int.ofNat (digitsValue digits), left)
      | '+' :: rest =>
        match spanDigits rest with
        | ([], _) => none
        | (digits, left) => some (digitsValue digits, left)
      | rest =>
        match spanDigits rest with
        | ([], _) => none
        | (digits, left) => some (digitsValue digits, left)
    else none
  | [] => none

/-- The whole digits of a number: a zero alone, or digits that start with none. -/
def spanWhole : List Char → List Char × List Char
  | '0' :: rest => (['0'], rest)
  | cs => spanDigits cs

/-- The integer of some digits, if they are not too many. -/
def readInteger (negative : Bool) (digits : List Char) : Except Fault Json :=
  if Text.maxDigits < digits.length then .error (.excess (.digits digits.length))
  else
    let value := digitsValue digits
    .ok (.integer (if negative then -Int.ofNat value else value))

/-- Reads a number after its sign; it is an integer unless a fraction or an exponent follows. -/
def readNumber (negative : Bool) (cs : List Char) : Except Fault (Json × List Char) :=
  match spanWhole cs with
  | ([], _) => .error .expectedValue
  | (whole, afterWhole) =>
    let (fraction, afterFraction) := spanFraction afterWhole
    match spanExponent afterFraction with
    | some (exponent, left) =>
      .ok (.decimal ⟨negative, digitsValue (whole ++ fraction), exponent - fraction.length⟩, left)
    | none =>
      if fraction.isEmpty then (readInteger negative whole).map fun json => (json, afterFraction)
      else
        .ok (.decimal ⟨negative, digitsValue (whole ++ fraction), -Int.ofNat fraction.length⟩,
          afterFraction)

/-- Reads a value that is neither text nor container. -/
def readAtom (cs : List Char) : Except Stop (Json × List Char) :=
  match cs with
  | 'n' :: 'u' :: 'l' :: 'l' :: rest => .ok (.null, rest)
  | 't' :: 'r' :: 'u' :: 'e' :: rest => .ok (.bool true, rest)
  | 'f' :: 'a' :: 'l' :: 's' :: 'e' :: rest => .ok (.bool false, rest)
  | 'N' :: 'a' :: 'N' :: rest => .ok (.notANumber, rest)
  | 'I' :: 'n' :: 'f' :: 'i' :: 'n' :: 'i' :: 't' :: 'y' :: rest => .ok (.infinity false, rest)
  | '-' :: 'I' :: 'n' :: 'f' :: 'i' :: 'n' :: 'i' :: 't' :: 'y' :: rest =>
    .ok (.infinity true, rest)
  | '-' :: rest => (readNumber true rest).mapError fun fault => ⟨fault, cs⟩
  | _ => (readNumber false cs).mapError fun fault => ⟨fault, cs⟩

mutual

/-- Reads the value at the front. `room` is the number of containers that may still be entered.
`fuel` bounds the nesting and the number of items read; a document's own length is enough, since
each step takes a character. -/
def readValue : (fuel room : Nat) → List Char → Except Stop (Json × List Char)
  | 0, _, cs => .error ⟨.expectedValue, cs⟩
  | fuel + 1, room, cs =>
    match cs, room with
    | '[' :: _, 0 => .error ⟨.excess (.depth .array), cs⟩
    | '[' :: rest, room + 1 =>
      match skipSpace rest with
      | ']' :: left => .ok (.list [], left)
      | inside => do
        let (items, left) ← readItems fuel room inside
        pure (.list items, left)
    | '\x7b' :: _, 0 => .error ⟨.excess (.depth .object), cs⟩
    | '\x7b' :: rest, room + 1 =>
      match skipSpace rest with
      | '\x7d' :: left => .ok (.object [], left)
      | inside => do
        let (members, left) ← readMembers fuel room inside
        pure (.object members, left)
    | '\x22' :: rest, _ => do
      let (points, left) ← readText rest
      pure (.text points, left)
    | cs, _ => readAtom cs

/-- Reads the items of a list up to its bracket. -/
def readItems : (fuel room : Nat) → List Char → Except Stop (List Json × List Char)
  | 0, _, cs => .error ⟨.expectedValue, cs⟩
  | fuel + 1, room, cs => do
    let (item, afterItem) ← readValue fuel room cs
    match skipSpace afterItem with
    | ']' :: left => pure ([item], left)
    | ',' :: rest => do
      let (items, left) ← readItems fuel room (skipSpace rest)
      pure (item :: items, left)
    | left => throw ⟨.expectedComma, left⟩

/-- Reads the members of an object up to its brace. -/
def readMembers :
    (fuel room : Nat) → List Char → Except Stop (List (Text × Json) × List Char)
  | 0, _, cs => .error ⟨.expectedName, cs⟩
  | fuel + 1, room, cs =>
    match cs with
    | '\x22' :: rest => do
      let (key, afterKey) ← readText rest
      match skipSpace afterKey with
      | ':' :: rest => do
        let (value, afterValue) ← readValue fuel room (skipSpace rest)
        match skipSpace afterValue with
        | '\x7d' :: left => pure ([(key, value)], left)
        | ',' :: rest => do
          let (members, left) ← readMembers fuel room (skipSpace rest)
          pure ((key, value) :: members, left)
        | left => throw ⟨.expectedComma, left⟩
      | left => throw ⟨.expectedColon, left⟩
    | cs => .error ⟨.expectedName, cs⟩

end

/-- The value of a document. Only white space may surround it, and it may hold as many containers
inside one another as there is room for. -/
def read (room : Nat) (document : List Char) : Except Stop Json :=
  match document with
  | '\ufeff' :: _ => .error ⟨.byteOrderMark, document⟩
  | _ => do
    let (value, left) ← readValue (document.length + 1) room (skipSpace document)
    match skipSpace left with
    | [] => pure value
    | left => throw ⟨.extraData, left⟩

/-- The line in which reading a document stopped, counted from one. -/
def lineOf (document : List Char) (stop : Stop) : Nat :=
  1 + (document.take (document.length - stop.remaining.length)).count '\n'

end FlowDiagram.Json
