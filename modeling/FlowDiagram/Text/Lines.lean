import FlowDiagram.Text.Basic

/-!
# Lines

A text falls into lines at every line break of Unicode: line feeds, carriage returns, vertical tabs
and form feeds, three of the information separators, the next-line control and the two separators.
A carriage return and a line feed right after it are one line break.

## Main definitions

* `isLineBreak`: whether a code point ends a line.
* `lines`: the lines of a text.
-/

namespace FlowDiagram.Text

/-- The code points that end a line. -/
def lineBreaks : List Nat :=
  [0x0A, 0x0B, 0x0C, 0x0D, 0x1C, 0x1D, 0x1E, 0x85, 0x2028, 0x2029]

/-- Whether a code point ends a line. -/
def isLineBreak (c : CodePoint) : Bool :=
  lineBreaks.contains c.toNat

/-- The lines of a text; `line` is what has been read of the current one, the last code point
first. -/
def linesFrom (line : Text) : Text → List Text
  | [] => if line.isEmpty then [] else [line.reverse]
  | .char '\r' :: .char '\n' :: rest => line.reverse :: linesFrom [] rest
  | c :: rest =>
    if isLineBreak c then line.reverse :: linesFrom [] rest else linesFrom (c :: line) rest

/-- The lines of a text, without their line breaks. A line break at the end starts no further
line. -/
def lines (text : Text) : List Text :=
  linesFrom [] text

end FlowDiagram.Text
