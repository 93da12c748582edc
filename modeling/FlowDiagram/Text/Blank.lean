import FlowDiagram.Text.Basic

/-!
# Blanks

The blank characters: the white space of Unicode together with the four information separators.
Conditions, style names and settings are trimmed and collapsed with respect to this set.

## Main definitions

* `isBlank`: whether a character is a blank.
* `isMargin`: the blanks that may stand around a written integer.
-/

namespace FlowDiagram.Text

/-- The code points of the blanks. -/
def blanks : List Nat :=
  [0x09, 0x0A, 0x0B, 0x0C, 0x0D, 0x1C, 0x1D, 0x1E, 0x1F, 0x20, 0x85, 0xA0, 0x1680, 0x2000,
   0x2001, 0x2002, 0x2003, 0x2004, 0x2005, 0x2006, 0x2007, 0x2008, 0x2009, 0x200A, 0x2028,
   0x2029, 0x202F, 0x205F, 0x3000]

/-- Whether a character is a blank. -/
def isBlank (c : CodePoint) : Bool :=
  blanks.contains c.toNat

/-- The blanks that may surround a written integer: all but the information separators. -/
def isMargin (c : CodePoint) : Bool :=
  isBlank c && !decide (0x1C ≤ c.toNat ∧ c.toNat ≤ 0x1F)

end FlowDiagram.Text
