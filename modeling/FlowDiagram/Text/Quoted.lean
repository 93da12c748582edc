import FlowDiagram.Text.Printable

/-!
# Quoted texts

Messages show a text that a user gave in quotes: apostrophes as a rule, double quotes when the
text holds an apostrophe and no double quote. Backslashes and the chosen quote are escaped, and
characters that cannot be printed are written by their code point.

## Main definitions

* `quoted`: a text in quotes.
-/

namespace FlowDiagram.Text

/-- The apostrophe. -/
def apostrophe : Char := '\x27'

/-- The double quote. -/
def doubleQuote : Char := '\x22'

/-- The backslash. -/
def backslash : Char := '\x5c'

/-- The lower-case hexadecimal digits of a number, padded with zeros to a width. -/
def hexDigits (width n : Nat) : List Char :=
  let digits := Nat.toDigits 16 n
  List.replicate (width - digits.length) '0' ++ digits

/-- The quote that surrounds a text. -/
def quoteFor (text : Text) : CodePoint :=
  if text.contains apostrophe && !text.contains doubleQuote then doubleQuote else apostrophe

/-- A code point written by its number. -/
def numbered (c : CodePoint) : List Char :=
  if c.toNat ≤ 0xFF then backslash :: 'x' :: hexDigits 2 c.toNat
  else if c.toNat ≤ 0xFFFF then backslash :: 'u' :: hexDigits 4 c.toNat
  else backslash :: 'U' :: hexDigits 8 c.toNat

/-- How one code point is written inside quotes. -/
def quotedPoint (quote c : CodePoint) : Text :=
  if c = quote || c = backslash then [.char backslash, c]
  else if c = '\n' then "\\n"
  else if c = '\r' then "\\r"
  else if c = '\t' then "\\t"
  else if isPrintable c then [c]
  else ofChars (numbered c)

/-- A text in quotes, with everything escaped that would not be read back as itself. -/
def quoted (text : Text) : Text :=
  let quote := quoteFor text
  quote :: text.flatMap (quotedPoint quote) ++ [quote]

end FlowDiagram.Text
