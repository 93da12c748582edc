import FlowDiagram.Dot.Token

/-!
# Reading DOT tokens

A text is read character by character. Words and numerals end with the first character that does
not belong to them, quoted texts with the first double quote that is not escaped, and HTML texts
with the angle bracket that closes the first one. In a quoted text, a backslash in front of a double
quote or of another backslash is not part of what the text says.

## Main definitions

* `Dot.Token`: what DOT is made of.
* `Dot.lex`: the tokens of a text, if it is made of tokens.

`Dot.lex_append_of_closed` and `Dot.lex_append_of_apart` say when a text can be read piece by piece.
-/

namespace FlowDiagram.Dot

/-- The keywords of the language. -/
inductive Keyword
  | node
  | edge
  | graph
  | digraph
  | subgraph
  | strict
  deriving DecidableEq, Repr

/-- The keywords and how they are written in lower case. -/
def keywordTable : List (Text × Keyword) :=
  [("node", .node), ("edge", .edge), ("graph", .graph), ("digraph", .digraph),
    ("subgraph", .subgraph), ("strict", .strict)]

/-- The keyword that a word is, in whatever case. -/
def keyword? (word : Text) : Option Keyword :=
  keywordTable.lookup (Text.lowerAscii word)

/-- A token: an identifier with its quoting undone, an HTML text, a keyword or a sign. -/
inductive Token
  | id (text : Text)
  | html (text : Text)
  | keyword (word : Keyword)
  | openBrace
  | closeBrace
  | openBracket
  | closeBracket
  | equals
  | semicolon
  | comma
  | arrow
  deriving DecidableEq, Repr

/-- What has been read of the token that is being read. `point` says whether a numeral has its point
already, and `depth` is the number of angle brackets that are open. -/
inductive Mode
  | between
  | word (read : Text)
  | number (read : Text) (point : Bool)
  | dash
  | quoted (read : Text)
  | escaped (read : Text)
  | html (depth : Nat) (read : Text)
  deriving DecidableEq, Repr

/-- Whether a character separates tokens. -/
def isSpace (c : CodePoint) : Bool :=
  c = ' ' || c = '\t' || c = '\n' || c = '\r'

/-- Whether a character may start a word. -/
def isLetter (c : CodePoint) : Bool :=
  c.char?.any Char.isAlpha || c = '_' || 0x80 ≤ c.toNat

/-- The sign that a character is. -/
def sign? (c : CodePoint) : Option Token :=
  if c = '\x7b' then some .openBrace
  else if c = '\x7d' then some .closeBrace
  else if c = '[' then some .openBracket
  else if c = ']' then some .closeBracket
  else if c = '=' then some .equals
  else if c = ';' then some .semicolon
  else if c = ',' then some .comma
  else none

/-- The token of a whole word. -/
def wordToken (word : Text) : Token :=
  match keyword? word with
  | some keyword => .keyword keyword
  | none => .id word

/-- Reads a character that no token is open for. -/
def begin (c : CodePoint) : Option (List Token × Mode) :=
  if isSpace c then some ([], .between)
  else if isLetter c then some ([], .word [c])
  else if c.isDigit then some ([], .number [c] false)
  else if c = '.' then some ([], .number [c] true)
  else if c = '-' then some ([], .dash)
  else if c = Text.doubleQuote then some ([], .quoted [])
  else if c = '<' then some ([], .html 1 [c])
  else (sign? c).map fun sign => ([sign], .between)

/-- The token that a text ends with, if it may end there. -/
def finish : Mode → Option (List Token)
  | .between => some []
  | .word read => some [wordToken read]
  | .number read _ => if read.any CodePoint.isDigit then some [.id read] else none
  | _ => none

/-- Puts tokens in front of the ones that were read. -/
def behind (tokens : List Token) (result : List Token × Mode) : List Token × Mode :=
  (tokens ++ result.1, result.2)

/-- Reads a character after a token that may end there. -/
def beginAfter (mode : Mode) (c : CodePoint) : Option (List Token × Mode) :=
  (finish mode).bind fun ended => (begin c).map (behind ended)

/-- Reads a character. -/
def step (mode : Mode) (c : CodePoint) : Option (List Token × Mode) :=
  match mode with
  | .between => begin c
  | .word read =>
    if isLetter c || c.isDigit then some ([], .word (read ++ [c])) else beginAfter mode c
  | .number read point =>
    if c.isDigit then some ([], .number (read ++ [c]) point)
    else if c = '.' && !point then some ([], .number (read ++ [c]) true)
    else if c = '.' || isLetter c then none
    else beginAfter mode c
  | .dash =>
    if c = '>' then some ([.arrow], .between)
    else if c.isDigit then some ([], .number ['-', c] false)
    else if c = '.' then some ([], .number ['-', c] true)
    else none
  | .quoted read =>
    if c = Text.backslash then some ([], .escaped read)
    else if c = Text.doubleQuote then some ([.id read], .between)
    else some ([], .quoted (read ++ [c]))
  | .escaped read =>
    if c = Text.doubleQuote || c = Text.backslash then some ([], .quoted (read ++ [c]))
    else if c = '\n' then some ([], .quoted read)
    else some ([], .quoted (read ++ [.char Text.backslash, c]))
  | .html depth read =>
    if c = '<' then some ([], .html (depth + 1) (read ++ [c]))
    else if c = '>' then
      if depth = 1 then some ([.html (read ++ [c])], .between)
      else some ([], .html (depth - 1) (read ++ [c]))
    else some ([], .html depth (read ++ [c]))

/-- Reads a text, and returns its tokens and what is still open at its end. -/
def run (mode : Mode) : Text → Option (List Token × Mode)
  | [] => some ([], mode)
  | c :: rest => (step mode c).bind fun result => (run result.2 rest).map (behind result.1)

/-- The tokens that were read, if nothing is left open. -/
def complete (result : List Token × Mode) : Option (List Token) :=
  (finish result.2).map (result.1 ++ ·)

/-- The tokens of a text. -/
def lex (text : Text) : Option (List Token) :=
  (run .between text).bind complete

/-! ## Texts one after the other -/

theorem behind_append (tokens more : List Token) :
    behind (tokens ++ more) = behind tokens ∘ behind more := by
  funext result
  simp [behind]

theorem complete_behind (tokens : List Token) (result : List Token × Mode) :
    complete (behind tokens result) = (complete result).map (tokens ++ ·) := by
  simp [complete, behind, Function.comp_def]

theorem run_append (mode : Mode) (before rest : Text) :
    run mode (before ++ rest) =
      (run mode before).bind fun result => (run result.2 rest).map (behind result.1) := by
  induction before generalizing mode with
  | nil =>
    have hid : behind [] = id := by
      funext result
      simp [behind]
    simp [run, hid]
  | cons c before ih =>
    rw [List.cons_append, run, run]
    cases step mode c with
    | none => rfl
    | some result =>
      rw [Option.bind_some, Option.bind_some, ih]
      cases run result.2 before with
      | none => rfl
      | some result' =>
        rw [Option.bind_some, Option.map_some, Option.bind_some, Option.map_map, ← behind_append]
        rfl

/-- A text that leaves nothing open is read on its own, whatever comes next. -/
theorem lex_append_of_closed {before : Text} {tokens : List Token}
    (h : run .between before = some (tokens, .between)) (rest : Text) :
    lex (before ++ rest) = (lex rest).map (tokens ++ ·) := by
  rw [lex, run_append, h, Option.bind_some, lex]
  cases run .between rest with
  | none => rfl
  | some result => exact complete_behind tokens result

/-- Whether a character ends the words and numerals in front of it. -/
def isApart (c : CodePoint) : Bool :=
  !(isLetter c || c.isDigit || c = '.')

/-- Whether the first character of a text, if it has one, ends the words in front of it. -/
def startsApart (text : Text) : Bool :=
  text.head?.all isApart

theorem step_of_isApart {mode : Mode} {c : CodePoint} {ended : List Token}
    (hended : finish mode = some ended) (hc : isApart c = true) :
    step mode c = (begin c).map (behind ended) := by
  simp only [isApart, Bool.not_eq_true', Bool.or_eq_false_iff, decide_eq_false_iff_not] at hc
  obtain ⟨⟨hletter, hdigit⟩, hpoint⟩ := hc
  have hafter : beginAfter mode c = (begin c).map (behind ended) := by
    rw [beginAfter, hended, Option.bind_some]
  cases mode with
  | between =>
    obtain rfl : ended = [] := (Option.some.inj hended).symm
    cases hbegin : begin c <;> simp [step, behind, hbegin]
  | word read => simpa [step, hletter, hdigit] using hafter
  | number read point => simpa [step, hletter, hdigit, hpoint] using hafter
  | dash => exact nomatch hended
  | quoted read => exact nomatch hended
  | escaped read => exact nomatch hended
  | html depth read => exact nomatch hended

/-- A text is read on its own if what comes next ends its last word. -/
theorem lex_append_of_apart {before rest : Text} {tokens : List Token}
    (h : lex before = some tokens) (hapart : startsApart rest = true) :
    lex (before ++ rest) = (lex rest).map (tokens ++ ·) := by
  obtain ⟨⟨done, mode⟩, hrun, hcomplete⟩ := Option.bind_eq_some_iff.mp h
  obtain ⟨ended, hended, rfl⟩ := Option.map_eq_some_iff.mp hcomplete
  rw [lex, run_append, hrun, Option.bind_some]
  cases rest with
  | nil =>
    have hnil : lex [] = some [] := rfl
    simp [run, hnil, complete, behind, hended]
  | cons c rest =>
    -- The last token ends here, so the rest is read as if nothing were open.
    have hstep := step_of_isApart hended hapart
    rw [lex, run, run, hstep, step]
    cases begin c with
    | none => rfl
    | some begun =>
      rw [Option.map_some, Option.bind_some, Option.bind_some]
      cases hrest : run begun.2 rest with
      | none => simp [behind, hrest]
      | some result => simp [behind, complete, hrest, Function.comp_def]

end FlowDiagram.Dot
