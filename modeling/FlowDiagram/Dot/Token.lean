import FlowDiagram.Text.Edit
import FlowDiagram.Text.Quoted

/-!
# DOT tokens

How names and labels are written in DOT. A name or a value stands bare when it is an identifier
(a value also when it is a numeral) and no keyword; everything else is put in double quotes.

Names are quoted so that undoing the quotes gives the name back. Labels are first escaped, with
line breaks written as an escape, and then quoted as values; quoting a value leaves escapes alone
that are there already.

## Main definitions

* `Dot.quoteName`: a name as a DOT identifier.
* `Dot.escapeLabel`: a label with its escapes.
* `Dot.quoteValue`: an attribute value as a DOT token.
* `Dot.isQuotable`: whether quoting a value is sound.
-/

namespace FlowDiagram.Dot

open Text

/-- Whether a character may start an identifier. -/
def isIdentifierStart (c : CodePoint) : Bool :=
  c.char?.any Char.isAlpha || c = '_'

/-- Whether a character may stand inside an identifier. -/
def isIdentifierPart (c : CodePoint) : Bool :=
  c.char?.any Char.isAlphanum || c = '_'

/-- Whether a text is an identifier. -/
def isIdentifier : Text → Bool
  | [] => false
  | c :: rest => isIdentifierStart c && rest.all isIdentifierPart

/-- Whether a text is a numeral: an optional minus and digits, of which a point may be part. -/
def isNumeral (text : Text) : Bool :=
  let digits := match text with
    | .char '-' :: rest => rest
    | rest => rest
  let whole := digits.takeWhile CodePoint.isDigit
  match digits.dropWhile CodePoint.isDigit with
  | [] => !whole.isEmpty
  | .char '.' :: fraction => fraction.all CodePoint.isDigit && (!whole.isEmpty || !fraction.isEmpty)
  | _ => false

/-- The keywords of DOT. -/
def keywords : List Text :=
  ["node", "edge", "graph", "digraph", "subgraph", "strict"]

/-- Whether a text is a keyword, in whatever case. -/
def isKeyword (text : Text) : Bool :=
  keywords.contains (lowerAscii text)

/-- A text without the line feed at its end, if there is one. -/
def dropFinalNewline (text : Text) : Text :=
  if text.getLast? = some (.char '\n') then text.dropLast else text

/-- Whether a name stands bare: it is an identifier, up to a final line feed, and no keyword. -/
def isBareName (name : Text) : Bool :=
  isIdentifier (dropFinalNewline name) && !isKeyword name

/-- A name with every backslash and double quote escaped. -/
def escapeName (name : Text) : Text :=
  name.flatMap fun c : CodePoint =>
    if c = backslash || c = doubleQuote then [.char backslash, c] else [c]

/-- A text between double quotes. -/
def inQuotes (text : Text) : Text :=
  .char doubleQuote :: text ++ ([doubleQuote] : Text)

/-- A name as a DOT identifier. -/
def quoteName (name : Text) : Text :=
  if isBareName name then name else inQuotes (escapeName name)

/-- A label with backslashes, double quotes and line breaks escaped. -/
def escapeLabel (text : Text) : Text :=
  text.flatMap fun c : CodePoint =>
    if c = backslash || c = doubleQuote then [.char backslash, c]
    else if c = '\n' then "\\n"
    else [c]

/-- Whether a value stands bare: it is an identifier or a numeral, up to a final line feed, and no
keyword. -/
def isBareValue (value : Text) : Bool :=
  let body := dropFinalNewline value
  (isIdentifier body || isNumeral body) && !isKeyword value

/-- Escapes the double quotes that are not escaped yet. `escaped` says whether an odd number of
backslashes stands before. -/
def escapeQuotes (escaped : Bool) : Text → Text
  | [] => []
  | c :: rest =>
    if c = backslash then c :: escapeQuotes (!escaped) rest
    else if c = doubleQuote then
      if escaped then c :: escapeQuotes false rest
      else .char backslash :: c :: escapeQuotes false rest
    else c :: escapeQuotes false rest

/-- An attribute value as a DOT token. -/
def quoteValue (value : Text) : Text :=
  if isBareValue value then value else inQuotes (escapeQuotes false value)

/-- Whether a value can be quoted: an odd number of backslashes at its end would escape the closing
quote. -/
def isQuotable (value : Text) : Bool :=
  (value.reverse.takeWhile (· = .char backslash)).length % 2 = 0

end FlowDiagram.Dot
