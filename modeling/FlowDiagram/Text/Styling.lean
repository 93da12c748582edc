import FlowDiagram.Text.Basic

/-!
# Styling sequences

Terminals take control sequences that change colours or move the cursor. They are left out of texts
that may end up elsewhere. A sequence is an escape character, an opening bracket, parameters,
intermediate characters and a final character, each taken from a range of ASCII of its own.

## Main definitions

* `stylingLength?`: the length of a sequence.
* `dropStyling`: a text without styling sequences.
* `dropColouring`: a text without those that only colour it.
-/

namespace FlowDiagram.Text

/-- The character that starts a styling sequence. -/
def escapeCharacter : Char := '\x1b'

/-- Whether a code point is one of the characters from a first to a last one. -/
def isBetween (first last : Char) (c : CodePoint) : Bool :=
  c.char?.any fun c => decide (first ≤ c ∧ c ≤ last)

/-- Whether a character is a parameter of a styling sequence. -/
def isStylingParameter (c : CodePoint) : Bool :=
  isBetween '0' '?' c

/-- Whether a character may stand between the parameters and the end of a styling sequence. -/
def isStylingIntermediate (c : CodePoint) : Bool :=
  isBetween ' ' '/' c

/-- Whether a character ends a styling sequence. -/
def isStylingFinal (c : CodePoint) : Bool :=
  isBetween '@' '~' c

/-- The number of characters of the styling sequence that follows an escape character, if there is
one. -/
def stylingLength? : Text → Option Nat
  | .char '[' :: rest =>
    let parameters := rest.takeWhile isStylingParameter
    let behind := rest.drop parameters.length
    let intermediates := behind.takeWhile isStylingIntermediate
    if (behind.drop intermediates.length).head?.any isStylingFinal then
      some (parameters.length + intermediates.length + 2)
    else none
  | _ => none

/-- Whether a character may stand between the bracket and the end of a colouring sequence. -/
def isColourParameter (c : CodePoint) : Bool :=
  c.isDigit || c = ';'

/-- The number of characters of the colouring sequence that follows an escape character, if there is
one: its parameters are numbers and its final character is an `m`. -/
def colouringLength? : Text → Option Nat
  | .char '[' :: rest =>
    let parameters := rest.takeWhile isColourParameter
    if (rest.drop parameters.length).head? = some (.char 'm') then some (parameters.length + 2)
    else none
  | _ => none

/-- Leaves out sequences that start with an escape character and are as long as a function of what
follows it says; `skip` characters still belong to the last one found. -/
def dropSequences (length? : Text → Option Nat) : Nat → Text → Text
  | _, [] => []
  | skip + 1, _ :: rest => dropSequences length? skip rest
  | 0, c :: rest =>
    if c = escapeCharacter then
      match length? rest with
      | some length => dropSequences length? length rest
      | none => c :: dropSequences length? 0 rest
    else c :: dropSequences length? 0 rest

/-- A text without styling sequences. -/
def dropStyling (text : Text) : Text :=
  dropSequences stylingLength? 0 text

/-- A text without colouring sequences; other styling sequences stay. -/
def dropColouring (text : Text) : Text :=
  dropSequences colouringLength? 0 text

end FlowDiagram.Text
