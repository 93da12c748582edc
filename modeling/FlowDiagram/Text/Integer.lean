import FlowDiagram.Text.Digit
import FlowDiagram.Text.Edit

/-!
# Written integers

An integer is written as an optional sign and decimal digits of any script, with single
underscores between digits and margins around the whole. Its digits, zeros in front included, may
be as many as an integer is read with.

## Main definitions

* `readDigits`: the value of a digit sequence.
* `readInteger`: the value of a written integer.
-/

namespace FlowDiagram.Text

/-- Reads digits after one has been seen; `value` is what they amount to so far, and a single
underscore may stand before each further digit. -/
def readDigitsFrom (value : Nat) : Text → Option Nat
  | [] => some value
  | .char '_' :: c :: rest =>
    match digitValue? c with
    | some d => readDigitsFrom (10 * value + d) rest
    | none => none
  | c :: rest =>
    match digitValue? c with
    | some d => readDigitsFrom (10 * value + d) rest
    | none => none

/-- The value of a non-empty digit sequence. -/
def readDigits : Text → Option Nat
  | [] => none
  | c :: rest =>
    match digitValue? c with
    | some d => readDigitsFrom d rest
    | none => none

/-- Whether a text has more digits than an integer is read with. -/
def hasTooManyDigits (text : Text) : Bool :=
  decide (maxDigits < text.countP fun c => (digitValue? c).isSome)

/-- The value of a text that is a written integer. -/
def readInteger (text : Text) : Option Int :=
  if hasTooManyDigits text then none
  else match trimBy isMargin text with
  | .char '+' :: digits => (readDigits digits).map Int.ofNat
  | .char '-' :: digits => (readDigits digits).map fun n => -Int.ofNat n
  | digits => (readDigits digits).map Int.ofNat

end FlowDiagram.Text
