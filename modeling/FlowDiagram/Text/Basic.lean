/-!
# Texts

A text is a list of code points. A code point is a character or a surrogate: a surrogate is no
character, but a JSON text may spell one on its own, so every text that comes from outside may hold
some. Lengths and cuts count code points, and texts are ordered code point by code point.

## Main definitions

* `CodePoint`: a character or a surrogate.
* `Text`: a list of code points.
* `Text.ofString`: the text of a string; strings stand for their texts.
* `Text.toString?`: the string that a text spells, if it has no surrogates.
-/

namespace FlowDiagram

/-- A code point of Unicode: a character, or the surrogate at an offset from the first one. -/
inductive CodePoint
  | char (c : Char)
  | surrogate (offset : Fin 2048)
  deriving DecidableEq, Repr, Inhabited

namespace CodePoint

instance : Coe Char CodePoint := ⟨.char⟩

/-- The number of the first surrogate. -/
def firstSurrogate : Nat := 0xD800

/-- The number of a code point. -/
def toNat : CodePoint → Nat
  | .char c => c.toNat
  | .surrogate offset => firstSurrogate + offset

instance : Hashable CodePoint := ⟨fun point => hash point.toNat⟩

/-- The code point of a number; past the last one there is none, and the null character stands
in. -/
def ofNat (n : Nat) : CodePoint :=
  if h : firstSurrogate ≤ n ∧ n < firstSurrogate + 2048 then
    .surrogate ⟨n - firstSurrogate, by omega⟩
  else .char (Char.ofNat n)

/-- The character that a code point is, unless it is a surrogate. -/
def char? : CodePoint → Option Char
  | .char c => some c
  | .surrogate _ => none

/-- Whether a code point is a surrogate. -/
def isSurrogate : CodePoint → Bool
  | .char _ => false
  | .surrogate _ => true

/-- Whether a code point is one of the ten ASCII digits. -/
def isDigit (point : CodePoint) : Bool :=
  point.char?.any Char.isDigit

instance : LT CodePoint := ⟨fun a b => a.toNat < b.toNat⟩

instance (a b : CodePoint) : Decidable (a < b) :=
  inferInstanceAs (Decidable (a.toNat < b.toNat))

end CodePoint

/-- A sequence of code points. -/
abbrev Text := List CodePoint

namespace Text

/-- The text of characters. -/
def ofChars (chars : List Char) : Text :=
  chars.map .char

/-- The text of a string. -/
def ofString (string : String) : Text :=
  ofChars string.toList

instance : Coe String Text := ⟨ofString⟩

/-- The decimal digits of a natural number. -/
def ofNat (n : Nat) : Text :=
  ofString (toString n)

/-- The characters of a text, if it has no surrogates. -/
def chars? (text : Text) : Option (List Char) :=
  text.mapM CodePoint.char?

/-- The string that a text spells, if it has no surrogates. -/
def toString? (text : Text) : Option String :=
  text.chars?.map String.ofList

/-- Texts one after the other, with a separator between them. -/
def joined (separator : Text) (texts : List Text) : Text :=
  separator.intercalate texts

theorem chars?_ofChars (chars : List Char) : chars? (ofChars chars) = some chars := by
  induction chars with
  | nil => rfl
  | cons c rest ih =>
    simp only [chars?, ofChars] at ih ⊢
    simp [CodePoint.char?, ih]

end Text

end FlowDiagram
