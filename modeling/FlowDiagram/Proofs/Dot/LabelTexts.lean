import FlowDiagram.Proofs.Dot.Statements

/-!
# Labels survive being written

A label is escaped, marked as plain text, and then quoted like every other value. The second step
finds nothing left to escape, so that every label can be written and is read back as it was: an
identifier or a numeral that is no keyword stands bare, and everything else between quotes, on one
line and with the escapes that belong to labels.

## Main definitions

* `Dot.Value.ofText`: what a text is taken for, marked as plain text or not.
* `Dot.Value.written?`: a value as it is written, unless it is refused.
* `Dot.labelOf?`: the label that a token stands for.

`Dot.written_escapeLabel` is the main result.
-/

namespace FlowDiagram.Dot

/-! ## Values that may be refused -/

/-- Whether a text looks like HTML: it starts with an angle bracket and ends with one, up to a final
line feed. -/
def looksLikeHtml (text : Text) : Bool :=
  text.head? = some (.char '<') && (dropFinalNewline text).getLast? = some (.char '>')

/-- What a text is taken for: HTML if it looks like it, unless it is marked as plain text. -/
def Value.ofText (isMarked : Bool) (text : Text) : Value :=
  if looksLikeHtml text && !isMarked then .html text else .plain text

/-- A value as it is written, unless it is refused. -/
def Value.written? (value : Value) : Option Text :=
  if value.isWritable then some value.token else none

/-- A label as it is written: it is escaped and marked as plain text. -/
def writtenLabel? (label : Text) : Option Text :=
  (Value.ofText true (escapeLabel label)).written?

/-! ## Reading labels -/

/-- The character that an escape stands for. -/
def unescaped? (c : CodePoint) : Option CodePoint :=
  if c = Text.backslash || c = Text.doubleQuote then some c
  else if c = 'n' then some '\n'
  else none

/-- The label between double quotes, read from behind the first one. It has to end with the first
double quote that is not escaped; `escaped` says whether the first character is. -/
def readLabel (escaped : Bool) : Text → Option Text
  | [] => none
  | c :: rest =>
    if escaped then
      (unescaped? c).bind fun said => (readLabel false rest).map (said :: ·)
    else if c = Text.backslash then readLabel true rest
    else if c = Text.doubleQuote then if rest.isEmpty then some [] else none
    else (readLabel false rest).map (c :: ·)

/-- The label that a token stands for, with its quotes and escapes undone. A bare token stands for
itself. -/
def labelOf? : Text → Option Text
  | [] => none
  | c :: rest => if c = Text.doubleQuote then readLabel false rest else some (c :: rest)

/-! ## Escapes -/

/-- How one character of a label is written. -/
def escapedPoint (c : CodePoint) : Text :=
  if c = Text.backslash || c = Text.doubleQuote then [.char Text.backslash, c]
  else if c = '\n' then "\\n"
  else [c]

theorem escapeLabel_cons (c : CodePoint) (label : Text) :
    escapeLabel (c :: label) = escapedPoint c ++ escapeLabel label :=
  List.flatMap_cons

/-- A character that is written as it is. -/
def IsLiteral (c : CodePoint) : Prop :=
  c ≠ Text.backslash ∧ c ≠ Text.doubleQuote ∧ c ≠ '\n'

theorem escapedPoint_of_isLiteral {c : CodePoint} (h : IsLiteral c) : escapedPoint c = [c] := by
  simp [escapedPoint, h.1, h.2.1, h.2.2]

/-- A character is escaped, or it is written as it is. -/
theorem escapedPoint_cases (c : CodePoint) :
    (∃ written, escapedPoint c = [.char Text.backslash, written] ∧ unescaped? written = some c) ∨
      IsLiteral c := by
  by_cases hescaped : c = Text.backslash ∨ c = Text.doubleQuote
  · refine Or.inl ⟨c, ?_, ?_⟩
    · simp [escapedPoint, hescaped]
    · simp [unescaped?, hescaped]
  · by_cases hline : c = '\n'
    · subst hline
      exact Or.inl ⟨.char 'n', by decide, by decide⟩
    · rw [not_or] at hescaped
      exact Or.inr ⟨hescaped.1, hescaped.2, hline⟩

/-- A label that is escaped has no double quote left to escape. -/
theorem escapeQuotes_escapeLabel (label : Text) :
    escapeQuotes false (escapeLabel label) = escapeLabel label := by
  induction label with
  | nil => rfl
  | cons c label ih =>
    rw [escapeLabel_cons]
    rcases escapedPoint_cases c with ⟨written, hwritten, -⟩ | hliteral
    · -- The backslash escapes what stands behind it, whatever it is.
      rw [hwritten]
      simp [escapeQuotes, ih]
    · rw [escapedPoint_of_isLiteral hliteral]
      simp [escapeQuotes, hliteral.1, hliteral.2.1, ih]

/-- A label that is escaped is read back up to the quote behind it. -/
theorem readLabel_escapeLabel (label : Text) :
    readLabel false (escapeLabel label ++ ([Text.doubleQuote] : Text)) = some label := by
  induction label with
  | nil => rfl
  | cons c label ih =>
    rw [escapeLabel_cons, List.append_assoc]
    rcases escapedPoint_cases c with ⟨written, hwritten, hsaid⟩ | hliteral
    · rw [hwritten]
      simp [readLabel, hsaid, ih]
    · rw [escapedPoint_of_isLiteral hliteral]
      simp [readLabel, hliteral.1, hliteral.2.1, ih]

/-! ## Labels without quotes -/

/-- Whether a label stands bare: it is an identifier or a numeral, and no keyword. -/
def standsBare (label : Text) : Bool :=
  (isIdentifier label || isNumeral label) && !isKeyword label

theorem isLiteral_of_isIdentifierPart {c : CodePoint} (h : isIdentifierPart c = true) :
    IsLiteral c := by
  refine ⟨?_, ?_, ?_⟩ <;> rintro rfl <;> exact absurd h (by decide)

theorem isLiteral_of_isDigit {c : CodePoint} (h : c.isDigit = true) : IsLiteral c := by
  refine ⟨?_, ?_, ?_⟩ <;> rintro rfl <;> exact absurd h (by decide)

theorem isLiteral_of_mem_identifier {word : Text} (h : isIdentifier word = true) :
    ∀ c ∈ word, IsLiteral c := by
  cases word with
  | nil => exact nomatch h
  | cons first word =>
    rw [isIdentifier, Bool.and_eq_true] at h
    refine List.forall_mem_cons.mpr ⟨?_, fun c hc => ?_⟩
    · refine ⟨?_, ?_, ?_⟩ <;> rintro rfl <;> exact absurd h.1 (by decide)
    · exact isLiteral_of_isIdentifierPart (List.all_eq_true.mp h.2 c hc)

theorem isLiteral_of_mem_unsigned {digits : Text} (h : isUnsigned digits = true) :
    ∀ c ∈ digits, IsLiteral c := by
  have hwhole : ∀ c ∈ digits.takeWhile CodePoint.isDigit, IsLiteral c := fun c hc =>
    isLiteral_of_isDigit (List.all_eq_true.mp List.all_takeWhile c hc)
  rw [← List.takeWhile_append_dropWhile (p := CodePoint.isDigit) (l := digits)]
  refine List.forall_mem_append.mpr ⟨hwhole, ?_⟩
  unfold isUnsigned at h
  split at h
  · rename_i htail
    rw [htail]
    exact fun _ hc => nomatch hc
  · rename_i fraction htail
    rw [Bool.and_eq_true] at h
    rw [htail]
    refine List.forall_mem_cons.mpr ⟨⟨by decide, by decide, by decide⟩, fun c hc => ?_⟩
    exact isLiteral_of_isDigit (List.all_eq_true.mp h.1 c hc)
  · exact nomatch h

theorem isLiteral_of_mem_numeral {numeral : Text} (h : isNumeral numeral = true) :
    ∀ c ∈ numeral, IsLiteral c := by
  rcases isUnsigned_of_isNumeral h with hdigits | ⟨digits, rfl, hdigits⟩
  · exact isLiteral_of_mem_unsigned hdigits
  · exact List.forall_mem_cons.mpr
      ⟨⟨by decide, by decide, by decide⟩, isLiteral_of_mem_unsigned hdigits⟩

/-- What may stand bare has nothing to escape. -/
theorem isLiteral_of_mem_bare {text : Text} (h : (isIdentifier text || isNumeral text) = true) :
    ∀ c ∈ text, IsLiteral c := by
  rcases (Bool.or_eq_true _ _).mp h with hword | hnumeral
  · exact isLiteral_of_mem_identifier hword
  · exact isLiteral_of_mem_numeral hnumeral

theorem escapeLabel_eq_self {label : Text} (h : ∀ c ∈ label, IsLiteral c) :
    escapeLabel label = label := by
  induction label with
  | nil => rfl
  | cons c label ih =>
    rw [List.forall_mem_cons] at h
    rw [escapeLabel_cons, escapedPoint_of_isLiteral h.1, ih h.2]
    rfl

/-- What needs an escape has a backslash when it is escaped. -/
theorem backslash_mem_escapeLabel {label : Text} (h : ¬ ∀ c ∈ label, IsLiteral c) :
    .char Text.backslash ∈ escapeLabel label := by
  obtain ⟨c, hc, hnot⟩ : ∃ c ∈ label, ¬ IsLiteral c := by simpa using h
  refine List.mem_flatMap.mpr ⟨c, hc, ?_⟩
  show .char Text.backslash ∈ escapedPoint c
  rcases escapedPoint_cases c with ⟨written, hwritten, -⟩ | hliteral
  · rw [hwritten]
    exact List.mem_cons_self
  · exact absurd hliteral hnot

/-- Escaping does not change whether a label stands bare. -/
theorem isBareValue_escapeLabel (label : Text) :
    isBareValue (escapeLabel label) = standsBare label := by
  have hdrop : dropFinalNewline (escapeLabel label) = escapeLabel label := by
    rw [dropFinalNewline, if_neg]
    exact fun hlast => newline_not_mem_escapeLabel label (List.mem_of_getLast? hlast)
  rw [isBareValue, hdrop, standsBare]
  by_cases hliteral : ∀ c ∈ label, IsLiteral c
  · rw [escapeLabel_eq_self hliteral]
  · have hlabel : (isIdentifier label || isNumeral label) = false :=
      Bool.eq_false_iff.mpr fun h => hliteral (isLiteral_of_mem_bare h)
    have hescaped : (isIdentifier (escapeLabel label) || isNumeral (escapeLabel label)) = false :=
      Bool.eq_false_iff.mpr fun h =>
        (isLiteral_of_mem_bare h _ (backslash_mem_escapeLabel hliteral)).1 rfl
    rw [hlabel, hescaped, Bool.false_and, Bool.false_and]

/-! ## Written labels -/

/-- The token of a label. -/
def labelToken (label : Text) : Text :=
  if standsBare label then label else inQuotes (escapeLabel label)

theorem quoteValue_escapeLabel (label : Text) :
    quoteValue (escapeLabel label) = labelToken label := by
  rw [quoteValue, isBareValue_escapeLabel, labelToken, escapeQuotes_escapeLabel]
  split
  · rename_i hbare
    rw [standsBare, Bool.and_eq_true] at hbare
    exact escapeLabel_eq_self (isLiteral_of_mem_bare hbare.1)
  · rfl

/-- No label is refused. -/
theorem writtenLabel?_eq (label : Text) : writtenLabel? label = some (labelToken label) := by
  have hplain : Value.ofText true (escapeLabel label) = .plain (escapeLabel label) := by
    rw [Value.ofText, Bool.not_true, Bool.and_false, if_neg Bool.false_ne_true]
  rw [writtenLabel?, hplain, Value.written?, Value.isWritable, isQuotable_escapeLabel,
    Bool.or_true, if_pos rfl, Value.token, quoteValue_escapeLabel]

theorem newline_not_mem_labelToken (label : Text) : .char '\n' ∉ labelToken label := by
  have hline := newline_not_mem_escapeLabel label
  rw [labelToken]
  split
  · rename_i hbare
    rw [standsBare, Bool.and_eq_true] at hbare
    exact fun hmem => (isLiteral_of_mem_bare hbare.1 _ hmem).2.2 rfl
  · simpa [inQuotes, Text.doubleQuote] using hline

/-- A label is read back from its token. -/
theorem labelOf?_labelToken (label : Text) : labelOf? (labelToken label) = some label := by
  rw [labelToken]
  split
  · rename_i hbare
    rw [standsBare, Bool.and_eq_true] at hbare
    have hliteral := isLiteral_of_mem_bare hbare.1
    cases label with
    | nil => exact nomatch hbare.1
    | cons c label => rw [labelOf?, if_neg (hliteral c List.mem_cons_self).2.1]
  · rw [inQuotes, List.cons_append, labelOf?, if_pos rfl, readLabel_escapeLabel]

theorem labelToken_injective : Function.Injective labelToken := by
  intro label other h
  have hsame := labelOf?_labelToken label
  rw [h, labelOf?_labelToken] at hsame
  exact (Option.some.inj hsame).symm

theorem lex_labelToken (label : Text) : ∃ said, lex (labelToken label) = some [.id said] := by
  rw [← quoteValue_escapeLabel]
  exact ⟨_, lex_quoteValue (isQuotable_escapeLabel label) (newline_not_mem_escapeLabel label)⟩

/-- Every label can be written, as what its attribute shows behind the key: bare if it is an
identifier or a numeral and no keyword, and else between quotes with its escapes. What is written is
one token, which is an identifier and no HTML text, and it is on one line. With quotes and escapes
undone it is the label, so that no other label is written in the same way. -/
theorem written_escapeLabel (label : Text) :
    ∃ token, writtenLabel? label = some token ∧
      (∀ key, (Attribute.plain key (escapeLabel label)).text = key ++ "=" ++ token) ∧
      token = (if standsBare label then label else inQuotes (escapeLabel label)) ∧
      (∃ said, lex token = some [.id said]) ∧
      .char '\n' ∉ token ∧
      labelOf? token = some label ∧
      ∀ other, writtenLabel? other = some token ↔ other = label := by
  refine ⟨labelToken label, writtenLabel?_eq label, fun key => ?shown, rfl, lex_labelToken label,
    newline_not_mem_labelToken label, labelOf?_labelToken label, fun other => ?distinct⟩
  case shown => rw [Attribute.text, Attribute.plain, Value.token, quoteValue_escapeLabel]
  case distinct =>
    rw [writtenLabel?_eq, Option.some.injEq]
    exact labelToken_injective.eq_iff

/-- A label that looks like HTML and ends with a backslash. -/
example : writtenLabel? "<b>\\" = some (.ofString "\x22<b>\\\\\x22") := by decide

end FlowDiagram.Dot
