import FlowDiagram.Text.Digit
import FlowDiagram.Text.Edit

/-!
# Integers written as text

A field that holds an integer may hold it as a text. Such a text is tidied first: the margins, a
plus, zeros in front, a fraction made of zeros, and single underscores inside are left out. What
remains has to be a plain numeral of limited length, which is an optional minus and ASCII digits
without a zero in front.

## Main definitions

* `Numeral.tidy`: leaves out what a plain numeral does not have.
* `Numeral.plain?`: the value of a plain numeral.
* `Numeral.read`: what a text is read as.
-/

namespace FlowDiagram.Schema.Numeral

/-- Drops the zeros and underscores behind a first zero. The last zero stays in front of a point
and at the end of the text; `last` is the character before the ones to come. -/
def dropFurtherZeros (last : CodePoint) : Text → Option (Text)
  | [] => some [last]
  | c :: rest =>
    if c = '0' || c = '_' then dropFurtherZeros c rest
    else if c.isDigit || c = '-' then some (c :: rest)
    else if c = '.' then some (last :: c :: rest)
    else none

/-- Drops zeros in front of a text that starts with a digit. -/
def dropZeros : Text → Option (Text)
  | [] => none
  | c :: rest =>
    if c = '0' then dropFurtherZeros c rest
    else if c.isDigit then some (c :: rest)
    else none

/-- Drops zeros in front of the digits, behind a minus too. -/
def dropLeadingZeros : Text → Option (Text)
  | .char '-' :: rest => (dropZeros rest).map (.char '-' :: ·)
  | text => dropZeros text

/-- Drops a point and the zeros behind it; there has to be at least one, and nothing else. -/
def dropZeroFraction (text : Text) : Text :=
  let fraction := (text.dropWhile (· ≠ .char '.')).drop 1
  if !fraction.isEmpty && fraction.all (· = .char '0') then text.takeWhile (· ≠ .char '.')
  else text

/-- Drops single underscores inside. Underscores at an end or side by side all stay. -/
def dropUnderscores (text : Text) : Text :=
  let atEnd := text.head? = some (.char '_') || text.getLast? = some (.char '_')
  if atEnd || Text.occurs "__" text then text else text.filter (· ≠ .char '_')

/-- Drops a plus in front. -/
def dropPlus : Text → Text
  | .char '+' :: rest => rest
  | text => text

/-- Leaves out what a plain numeral does not have. Nothing comes of a text whose digits do not
start in front. -/
def tidy (text : Text) : Option (Text) :=
  match Text.trimBy Text.isMargin text with
  | .char '+' :: .char '-' :: _ => none
  | trimmed => (dropLeadingZeros (dropPlus trimmed)).map fun rest =>
    dropUnderscores (dropZeroFraction rest)

/-- The number that ASCII digits spell. -/
def digitsValue (digits : Text) : Nat :=
  digits.foldl (fun value c => 10 * value + (c.toNat - '0'.toNat)) 0

/-- The value of plain digits: a zero alone, or digits that start with another one. -/
def plainDigits? : Text → Option Nat
  | [] => none
  | [.char '0'] => some 0
  | .char '0' :: _ => none
  | digits => if digits.all CodePoint.isDigit then some (digitsValue digits) else none

/-- The value of a plain numeral. -/
def plain? : Text → Option Int
  | .char '-' :: digits => (plainDigits? digits).map fun n => -Int.ofNat n
  | digits => (plainDigits? digits).map Int.ofNat

/-- Digits without the minus in front of them. -/
def magnitude : Text → Text
  | .char '-' :: digits => digits
  | digits => digits

/-- Whether a text starts with more digits than are ever read. Only digits without a zero in front
count, and only the text as it is written: nothing is tidied, and what follows does not matter. -/
def isOversized (text : Text) : Bool :=
  let digits := magnitude text
  digits.head? ≠ some '0' && Text.maxDigits < (digits.takeWhile CodePoint.isDigit).length

/-- The value of a plain numeral that is short enough to be read. -/
def short? (numeral : Text) : Option Int :=
  if (magnitude numeral).length ≤ Text.maxDigits then plain? numeral else none

/-- What a text is read as: an integer, a numeral that is too long, or neither. -/
inductive Reading
  | value (n : Int)
  | oversized
  | unclear
  deriving DecidableEq, Repr

/-- Reads an integer that is written as a text. Digits that become too many, or come to stand in
front, only when the text is tidied make it unclear. -/
def read (text : Text) : Reading :=
  if isOversized text then .oversized
  else
    match (tidy text).bind short? with
    | some n => .value n
    | none => .unclear

end FlowDiagram.Schema.Numeral
