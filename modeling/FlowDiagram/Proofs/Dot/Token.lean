import FlowDiagram.Proofs.Dot.Labels
import FlowDiagram.Proofs.Dot.Lexer

/-!
# Names and values are single tokens

However a name or a value is written, it is read as one identifier, and a name as the name that was
written. The one exception are identifiers with a line feed behind them: they are written without
quotes, and the line feed is lost.

## Main definitions

* `Dot.losesNewline`: whether a name is such an exception.
* `Dot.shown`: what a quoted text says.

`Dot.lex_quoteName` and `Dot.lex_quoteValue` are the main results.
-/

namespace FlowDiagram.Dot

/-! ## Words -/

theorem isLetter_of_isIdentifierStart {c : CodePoint} (h : isIdentifierStart c = true) :
    isLetter c = true := by
  rw [isLetter, ← isIdentifierStart, h, Bool.true_or]

theorem isLetter_or_isDigit {c : CodePoint} (h : isIdentifierPart c = true) :
    (isLetter c || c.isDigit) = true := by
  cases c with
  | char c =>
    simp only [isIdentifierPart, isLetter, CodePoint.isDigit, CodePoint.char?, Option.any_some,
      Char.isAlphanum, Bool.or_eq_true] at h ⊢
    rcases h with (h | h) | h
    · exact Or.inl (Or.inl (Or.inl h))
    · exact Or.inr h
    · exact Or.inl (Or.inl (Or.inr h))
  | surrogate offset => simp [isIdentifierPart, CodePoint.char?] at h

theorem isSpace_eq_false {c : CodePoint} (h : isLetter c = true) : isSpace c = false := by
  rw [Bool.eq_false_iff]
  intro hspace
  simp only [isSpace, Bool.or_eq_true, decide_eq_true_eq] at hspace
  rcases hspace with ((rfl | rfl) | rfl) | rfl <;> exact absurd h (by decide)

theorem run_word {text : Text} (htext : text.all isIdentifierPart = true) (read : Text) :
    run (.word read) text = some ([], .word (read ++ text)) := by
  induction text generalizing read with
  | nil => simp [run]
  | cons c text ih =>
    rw [List.all_cons, Bool.and_eq_true] at htext
    rw [run, step, if_pos (isLetter_or_isDigit htext.1), Option.bind_some, ih htext.2]
    simp [behind]

/-- An identifier is read as a word. -/
theorem lex_identifier {text : Text} (h : isIdentifier text = true) :
    lex text = some [wordToken text] := by
  cases text with
  | nil => exact nomatch h
  | cons c text =>
    rw [isIdentifier, Bool.and_eq_true] at h
    have hletter := isLetter_of_isIdentifierStart h.1
    have hbegin : begin c = some ([], .word [c]) := by
      rw [begin, if_neg (by simp [isSpace_eq_false hletter]), if_pos hletter]
    rw [lex, run, step, hbegin, Option.bind_some, run_word h.2]
    rfl

theorem keyword?_eq_none {word : Text} (h : isKeyword word = false) : keyword? word = none := by
  have hwords : keywordTable.map Prod.fst = keywords := rfl
  rw [keyword?, List.lookup_eq_none_iff]
  intro row hrow
  rw [bne_iff_ne]
  intro heq
  have hmem : Text.lowerAscii word ∈ keywords := by
    rw [heq, ← hwords]
    exact List.mem_map_of_mem hrow
  rw [isKeyword, List.contains_iff_mem.mpr hmem] at h
  exact nomatch h

theorem lex_bareWord {text : Text} (hword : isIdentifier text = true)
    (hkeyword : isKeyword text = false) : lex text = some [.id text] := by
  rw [lex_identifier hword, wordToken, keyword?_eq_none hkeyword]

/-! ## Names -/

/-- Whether a name is an identifier with a line feed behind it. It would be written without quotes,
and the line feed would be lost. -/
def losesNewline (name : Text) : Bool :=
  name.getLast? = some (.char '\n') && isIdentifier name.dropLast

theorem dropFinalNewline_of_isIdentifier {name : Text} (hname : losesNewline name = false)
    (h : isIdentifier (dropFinalNewline name) = true) : dropFinalNewline name = name := by
  unfold dropFinalNewline at h ⊢
  split
  · rename_i hlast
    rw [if_pos hlast] at h
    simp [losesNewline, hlast, h] at hname
  · rfl

theorem run_escapeName (read name : Text) :
    run (.quoted read) (escapeName name) = some ([], .quoted (read ++ name)) := by
  induction name generalizing read with
  | nil => simp [escapeName, run]
  | cons c name ih =>
    rw [escapeName, List.flatMap_cons, ← escapeName, run_append]
    have hpiece : run (.quoted read)
        (if c = Text.backslash || c = Text.doubleQuote then [.char Text.backslash, c] else [c]) =
          some ([], .quoted (read ++ [c])) := by
      split
      · rename_i hc
        rw [Bool.or_comm] at hc
        simp [run, step, behind, hc]
      · rename_i hc
        simp only [Bool.or_eq_true, decide_eq_true_eq, not_or] at hc
        simp [run, step, behind, hc]
    rw [hpiece, Option.bind_some, ih]
    simp [behind]

theorem lex_inQuotes {body text : Text} (h : run (.quoted []) body = some ([], .quoted text)) :
    lex (inQuotes body) = some [.id text] := by
  have hopen : run .between [.char Text.doubleQuote] = some ([], .quoted []) := by decide
  have hclose : run (.quoted text) [.char Text.doubleQuote] = some ([.id text], .between) := by
    simp [run, step, behind, Text.doubleQuote, Text.backslash]
  rw [inQuotes, ← List.singleton_append, lex, List.append_assoc, run_append, hopen]
  rw [Option.bind_some, run_append, h, Option.bind_some, hclose]
  rfl

/-- A name is written as one identifier, which reads as the name. -/
theorem lex_quoteName {name : Text} (hname : losesNewline name = false) :
    lex (quoteName name) = some [.id name] := by
  unfold quoteName
  split
  · rename_i hbare
    rw [isBareName, Bool.and_eq_true, Bool.not_eq_true'] at hbare
    have hdrop := dropFinalNewline_of_isIdentifier hname hbare.1
    rw [hdrop] at hbare
    exact lex_bareWord hbare.1 hbare.2
  · exact lex_inQuotes (run_escapeName [] name)

/-! ## Numerals -/

theorem run_number {text : Text} (htext : text.all CodePoint.isDigit = true) (read : Text)
    (point : Bool) : run (.number read point) text = some ([], .number (read ++ text) point) := by
  induction text generalizing read with
  | nil => simp [run]
  | cons c text ih =>
    rw [List.all_cons, Bool.and_eq_true] at htext
    rw [run, step, if_pos htext.1, Option.bind_some, ih htext.2]
    simp [behind]

/-- A mode in which a numeral may go on behind what has been read of it. -/
def StartsNumber (mode : Mode) (read : Text) : Prop :=
  (∀ c, c.isDigit = true → step mode c = some ([], .number (read ++ [c]) false)) ∧
    step mode '.' = some ([], .number (read ++ [.char '.']) true)

theorem isLetter_eq_false {c : CodePoint} (h : c.isDigit = true) : isLetter c = false := by
  cases c with
  | char c =>
    have hdigit : '0'.toNat ≤ c.toNat ∧ c.toNat ≤ '9'.toNat := Char.isDigit_iff_toNat.mp h
    have hbelow : ∀ letter : Char, '9'.toNat < letter.toNat → ¬ letter.val ≤ c.val := by
      intro letter hletter hle
      have hcode : letter.toNat ≤ c.toNat := UInt32.le_iff_toNat_le.mp hle
      omega
    have hupper : c.isUpper = false := decide_eq_false fun h => hbelow 'A' (by decide) h.1
    have hlower : c.isLower = false :=
      Bool.and_eq_false_iff.mpr (Or.inl (decide_eq_false (hbelow 'a' (by decide))))
    have halpha : c.isAlpha = false := Bool.or_eq_false_iff.mpr ⟨hupper, hlower⟩
    have hne : c ≠ '_' := by
      rintro rfl
      exact absurd h (by decide)
    have hsmall : ¬ 0x80 ≤ c.toNat := by
      have h9 : '9'.toNat = 57 := rfl
      omega
    simp [isLetter, CodePoint.char?, CodePoint.toNat, halpha, hne, hsmall]
  | surrogate offset => exact absurd h Bool.false_ne_true

theorem startsNumber_between : StartsNumber .between [] := by
  refine ⟨fun c hc => ?_, by decide⟩
  have hspace : isSpace c = false := by
    rw [Bool.eq_false_iff]
    intro hspace
    simp only [isSpace, Bool.or_eq_true, decide_eq_true_eq] at hspace
    rcases hspace with ((rfl | rfl) | rfl) | rfl <;> exact absurd hc (by decide)
  simp [step, begin, hspace, isLetter_eq_false hc, hc]

theorem startsNumber_dash : StartsNumber .dash [.char '-'] := by
  refine ⟨fun c hc => ?_, by decide⟩
  have hne : c ≠ '>' := by
    rintro rfl
    exact absurd hc (by decide)
  simp [step, hne, hc]

theorem startsNumber_number (read : Text) : StartsNumber (.number read false) read :=
  ⟨fun c hc => by simp [step, hc], by simp [step, CodePoint.isDigit, CodePoint.char?]⟩

/-- Whether a text is a numeral without a sign. -/
def isUnsigned (digits : Text) : Bool :=
  match digits.dropWhile CodePoint.isDigit with
  | [] => !(digits.takeWhile CodePoint.isDigit).isEmpty
  | .char '.' :: fraction =>
    fraction.all CodePoint.isDigit &&
      (!(digits.takeWhile CodePoint.isDigit).isEmpty || !fraction.isEmpty)
  | _ => false

theorem isUnsigned_of_isNumeral {text : Text} (h : isNumeral text = true) :
    isUnsigned text = true ∨ ∃ digits, text = .char '-' :: digits ∧ isUnsigned digits = true := by
  unfold isNumeral at h
  split at h
  · rename_i digits
    exact Or.inr ⟨digits, rfl, h⟩
  · exact Or.inl h

theorem run_whole {mode : Mode} {read : Text} (hmode : StartsNumber mode read) {c : CodePoint}
    {more : Text} (h : (c :: more).all CodePoint.isDigit = true) :
    run mode (c :: more) = some ([], .number (read ++ c :: more) false) := by
  rw [List.all_cons, Bool.and_eq_true] at h
  rw [run, hmode.1 c h.1, Option.bind_some, run_number h.2]
  simp [behind]

theorem run_fraction {mode : Mode} {read : Text} (hmode : StartsNumber mode read) {fraction : Text}
    (h : fraction.all CodePoint.isDigit = true) :
    run mode (.char '.' :: fraction) = some ([], .number (read ++ .char '.' :: fraction) true) := by
  rw [run, hmode.2, Option.bind_some, run_number h]
  simp [behind]

/-- Digits with or without a point are read to their end. -/
theorem run_digits {mode : Mode} {read digits : Text} (hmode : StartsNumber mode read)
    (h : isUnsigned digits = true) :
    ∃ point, run mode digits = some ([], .number (read ++ digits) point) ∧
      digits.any CodePoint.isDigit = true := by
  have hsplit := List.takeWhile_append_dropWhile (p := CodePoint.isDigit) (l := digits)
  have hwhole : (digits.takeWhile CodePoint.isDigit).all CodePoint.isDigit = true :=
    List.all_takeWhile
  have hany : ∀ c more, (c :: more : Text).all CodePoint.isDigit = true → c.isDigit = true := by
    intro c more hall
    rw [List.all_cons, Bool.and_eq_true] at hall
    exact hall.1
  unfold isUnsigned at h
  cases hw : digits.takeWhile CodePoint.isDigit with
  | nil =>
    rw [hw, List.nil_append] at hsplit
    split at h
    · simp [hw] at h
    · rename_i fraction htail
      simp only [hw, List.isEmpty_nil, Bool.not_true, Bool.false_or, Bool.and_eq_true,
        Bool.not_eq_true', List.isEmpty_eq_false_iff] at h
      rw [← hsplit, htail]
      refine ⟨true, run_fraction hmode h.1, ?_⟩
      obtain ⟨c, more, rfl⟩ := List.exists_cons_of_ne_nil h.2
      simp [hany c more h.1]
    · exact nomatch h
  | cons c more =>
    rw [hw] at hwhole hsplit
    split at h
    · rename_i htail
      rw [← hsplit, htail, List.append_nil]
      exact ⟨false, run_whole hmode hwhole, by simp [hany c more hwhole]⟩
    · rename_i fraction htail
      rw [Bool.and_eq_true] at h
      rw [← hsplit, htail]
      refine ⟨true, ?_, by simp [hany c more hwhole]⟩
      rw [run_append, run_whole hmode hwhole, Option.bind_some,
        run_fraction (startsNumber_number _) h.1]
      simp [behind]
    · exact nomatch h

/-- A numeral is read as one token. -/
theorem lex_numeral {text : Text} (h : isNumeral text = true) : lex text = some [.id text] := by
  rcases isUnsigned_of_isNumeral h with hdigits | ⟨digits, rfl, hdigits⟩
  · obtain ⟨point, hrun, hany⟩ := run_digits startsNumber_between hdigits
    simp [lex, hrun, complete, finish, hany]
  · obtain ⟨point, hrun, hany⟩ := run_digits startsNumber_dash hdigits
    have hdash : step .between '-' = some ([], .dash) := by decide
    simp [lex, run, hdash, hrun, behind, complete, finish, hany]

/-! ## Values -/

/-- What an escaped character says: itself, nothing, or the escape as it is written. -/
def escapedText (c : CodePoint) : Text :=
  if c = Text.doubleQuote || c = Text.backslash then [c]
  else if c = '\n' then []
  else [.char Text.backslash, c]

/-- What a quoted text says; `escaped` says whether its first character is escaped. -/
def shown (escaped : Bool) : Text → Text
  | [] => []
  | c :: rest =>
    if escaped then escapedText c ++ shown false rest
    else if c = Text.backslash then shown true rest
    else c :: shown false rest

/-- The mode inside a quoted text. -/
def quotedMode (escaped : Bool) (read : Text) : Mode :=
  if escaped then .escaped read else .quoted read

theorem step_backslash (read : Text) :
    step (quotedMode false read) Text.backslash = some ([], quotedMode true read) := by
  simp [quotedMode, step]

theorem step_quoted {c : CodePoint} (hbackslash : c ≠ Text.backslash)
    (hquote : c ≠ Text.doubleQuote) (read : Text) :
    step (quotedMode false read) c = some ([], quotedMode false (read ++ [c])) := by
  simp [quotedMode, step, hbackslash, hquote]

theorem step_escaped (read : Text) (c : CodePoint) :
    step (quotedMode true read) c = some ([], quotedMode false (read ++ escapedText c)) := by
  simp only [quotedMode, if_true, step, escapedText]
  split
  · rfl
  · split
    · simp
    · rfl

/-- A value is read to its end between quotes. -/
theorem run_escapeQuotes (escaped : Bool) (read value : Text) :
    run (quotedMode escaped read) (escapeQuotes escaped value) =
      some ([], quotedMode (endsEscaped escaped value) (read ++ shown escaped value)) := by
  induction value generalizing escaped read with
  | nil => simp [escapeQuotes, endsEscaped, shown, run]
  | cons c value ih =>
    cases escaped with
    | true =>
      have hwritten : escapeQuotes true (c :: value) = c :: escapeQuotes false value := by
        simp only [escapeQuotes]
        split
        · rfl
        · split <;> rfl
      simp [hwritten, run, step_escaped, ih, endsEscaped, shown, behind]
    | false =>
      by_cases hbackslash : c = Text.backslash
      · subst hbackslash
        simp [escapeQuotes, run, step_backslash, ih, endsEscaped, shown, behind]
      · by_cases hquote : c = Text.doubleQuote
        · -- A quote that is not escaped is written with a backslash in front.
          subst hquote
          simp [escapeQuotes, hbackslash, run, step_backslash, step_escaped, ih, endsEscaped, shown,
            escapedText, behind]
        · simp [escapeQuotes, hbackslash, hquote, run, step_quoted hbackslash hquote, ih,
            endsEscaped, shown, behind]

/-- A value is written as one token if it can be quoted and has no line feed. -/
theorem lex_quoteValue {value : Text} (hquotable : isQuotable value = true)
    (hline : .char '\n' ∉ value) :
    lex (quoteValue value) =
      some [.id (if isBareValue value then value else shown false value)] := by
  have hdrop : dropFinalNewline value = value := by
    rw [dropFinalNewline, if_neg]
    exact fun hlast => hline (List.mem_of_getLast? hlast)
  unfold quoteValue
  split
  · rename_i hbare
    rw [isBareValue, hdrop, Bool.and_eq_true, Bool.or_eq_true, Bool.not_eq_true'] at hbare
    rcases hbare.1 with hword | hnumeral
    · exact lex_bareWord hword hbare.2
    · exact lex_numeral hnumeral
  · have hends : endsEscaped false value = false := by
      rwa [isQuotable_eq, Bool.not_eq_true'] at hquotable
    have hrun := run_escapeQuotes false [] value
    rw [hends] at hrun
    exact lex_inQuotes hrun

/-! ## HTML texts -/

/-- The number of angle brackets that are open behind a text, unless the last one is closed in it.
-/
def openBrackets (depth : Nat) : Text → Option Nat
  | [] => some depth
  | c :: rest =>
    if c = '<' then openBrackets (depth + 1) rest
    else if c = '>' then if depth = 1 then none else openBrackets (depth - 1) rest
    else openBrackets depth rest

/-- Whether a text starts with an angle bracket that its last character closes. -/
def isHtml (text : Text) : Bool :=
  text.head? = some (.char '<') && text.tail.getLast? = some (.char '>') &&
    openBrackets 1 text.tail.dropLast = some 1

theorem run_html {depth after : Nat} {text : Text} (h : openBrackets depth text = some after)
    (read : Text) : run (.html depth read) text = some ([], .html after (read ++ text)) := by
  induction text generalizing depth read with
  | nil =>
    obtain rfl : depth = after := Option.some.inj h
    simp [run]
  | cons c text ih =>
    rw [openBrackets] at h
    rw [run, step]
    split at h
    · rename_i hopen
      simp [hopen, ih h, behind]
    · rename_i hopen
      split at h
      · rename_i hclose
        split at h
        · exact absurd h.symm (Option.some_ne_none after)
        · rename_i hdepth
          simp [hclose, hdepth, ih h, behind]
      · rename_i hclose
        simp [hopen, hclose, ih h, behind]

/-- An HTML text is read as one token. -/
theorem lex_html {text : Text} (h : isHtml text = true) : lex text = some [.html text] := by
  simp only [isHtml, Bool.and_eq_true, decide_eq_true_eq] at h
  obtain ⟨⟨hfirst, hlast⟩, hinner⟩ := h
  obtain ⟨rest, rfl⟩ := List.head?_eq_some_iff.mp hfirst
  obtain ⟨body, hbody⟩ := List.getLast?_eq_some_iff.mp hlast
  rw [List.tail_cons] at hbody hinner
  subst hbody
  rw [List.dropLast_concat] at hinner
  have hopen : step .between '<' = some ([], .html 1 [.char '<']) := by decide
  have hclose : ∀ read, run (.html 1 read) [.char '>'] =
      some ([.html (read ++ [.char '>'])], .between) := by
    intro read
    simp [run, step, behind]
  rw [lex, run, hopen, Option.bind_some, run_append, run_html hinner, Option.bind_some, hclose]
  simp [behind, complete, finish]

end FlowDiagram.Dot
