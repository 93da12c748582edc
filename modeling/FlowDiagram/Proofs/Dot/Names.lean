import FlowDiagram.Proofs.Dot.Statements

/-!
# Names as identifiers

A name is written as a single identifier that stands for it, unless it is an identifier with a line
feed behind it. Such a name is written as it is, the line feed separates tokens, and what is read is
the word in front of it. All other names are told apart wherever they stand.

What an identifier stands for is said by a grammar of its own, without the reader of tokens; the
reader agrees with it.

## Main definitions

* `Dot.Escapes`: what stands between double quotes, and what it says.
* `Dot.Identifies`: a single identifier, and the name that it stands for.
* `Dot.readToken`: the token that a name is read as.

`Dot.quoteName_identifies` is the main result.
-/

namespace FlowDiagram.Dot

/-! ## Identifiers -/

/-- What stands between double quotes, and what it says. A backslash stands in front of every
double quote and of every other backslash, so no quote ends the text early and its last character
escapes nothing. -/
inductive Escapes : Text → Text → Prop
  | nil : Escapes [] []
  /-- A character that stands for itself. -/
  | plain {c : CodePoint} {body said : Text} (hbackslash : c ≠ Text.backslash)
      (hquote : c ≠ Text.doubleQuote) (rest : Escapes body said) : Escapes (c :: body) (c :: said)
  /-- A character with a backslash in front. -/
  | escaped {c : CodePoint} {body said : Text} (hc : c = Text.backslash ∨ c = Text.doubleQuote)
      (rest : Escapes body said) : Escapes (.char Text.backslash :: c :: body) (c :: said)

/-- A single identifier, and the name that it stands for: a word that is no keyword stands for
itself, and a quoted text for what it says. -/
inductive Identifies : Text → Text → Prop
  | bare {word : Text} (hword : isIdentifier word = true) (hkeyword : isKeyword word = false) :
      Identifies word word
  | quoted {body said : Text} (h : Escapes body said) : Identifies (inQuotes body) said

theorem Escapes.run_quoted {body said : Text} (h : Escapes body said) (read : Text) :
    run (.quoted read) body = some ([], .quoted (read ++ said)) := by
  induction h generalizing read with
  | nil => simp [run]
  | plain hbackslash hquote _ ih => simp [run, step, behind, hbackslash, hquote, ih]
  | escaped hc _ ih => simp [run, step, behind, hc.symm, ih]

/-- An identifier is one token, and nothing is left over. -/
theorem Identifies.lex_eq {token said : Text} (h : Identifies token said) :
    lex token = some [.id said] := by
  cases h with
  | bare hword hkeyword => exact lex_bareWord hword hkeyword
  | quoted h => exact lex_inQuotes (h.run_quoted [])

/-- An identifier stands for one name only. -/
theorem Identifies.unique {token said other : Text} (h : Identifies token said)
    (h' : Identifies token other) : said = other := by
  have heq := h.lex_eq.symm.trans h'.lex_eq
  simpa using heq

theorem escapes_escapeName (name : Text) : Escapes (escapeName name) name := by
  induction name with
  | nil => exact .nil
  | cons c name ih =>
    rw [escapeName, List.flatMap_cons, ← escapeName]
    split
    · rename_i hc
      exact .escaped (by simpa using hc) ih
    · rename_i hc
      simp only [Bool.or_eq_true, decide_eq_true_eq, not_or] at hc
      exact .plain hc.1 hc.2 ih

/-- An identifier goes on to the end of its line. -/
theorem newline_not_mem_identifier {word : Text} (h : isIdentifier word = true) :
    .char '\n' ∉ word := by
  cases word with
  | nil => exact List.not_mem_nil
  | cons c word =>
    rw [isIdentifier, Bool.and_eq_true] at h
    intro hmem
    rcases List.mem_cons.mp hmem with rfl | hmem
    · exact absurd h.1 (by decide)
    · exact absurd (List.all_eq_true.mp h.2 _ hmem) (by decide)

/-! ## Names with a line feed at their end -/

section LosesNewline

variable {name : Text}

theorem eq_append_of_losesNewline (h : losesNewline name = true) :
    isIdentifier name.dropLast = true ∧ name = name.dropLast ++ [.char '\n'] := by
  rw [losesNewline, Bool.and_eq_true, decide_eq_true_eq] at h
  obtain ⟨word, hword⟩ := List.getLast?_eq_some_iff.mp h.1
  refine ⟨h.2, ?_⟩
  rw [hword, List.dropLast_concat]

/-- No keyword has a line feed. -/
theorem isKeyword_eq_false_of_newline (h : .char '\n' ∈ name) : isKeyword name = false := by
  have hkeywords : ∀ word ∈ keywords, .char '\n' ∉ word := by decide
  have hlower : .char '\n' ∈ Text.lowerAscii name :=
    List.mem_map.mpr ⟨.char '\n', h, rfl⟩
  rw [isKeyword, Bool.eq_false_iff]
  exact fun hmem => hkeywords _ (List.contains_iff_mem.mp hmem) hlower

/-- An identifier with a line feed behind it is written as it is. -/
theorem quoteName_of_losesNewline (h : losesNewline name = true) : quoteName name = name := by
  obtain ⟨hword, hname⟩ := eq_append_of_losesNewline h
  have hlast : name.getLast? = some (.char '\n') := by rw [hname, List.getLast?_concat]
  have hkeyword : isKeyword name = false :=
    isKeyword_eq_false_of_newline (List.mem_of_getLast? hlast)
  have hbare : isBareName name = true := by
    rw [isBareName, dropFinalNewline, if_pos hlast, hword, hkeyword]
    rfl
  rw [quoteName, if_pos hbare]

/-- It is read as the word in front of the line feed. -/
theorem lex_quoteName_of_losesNewline (h : losesNewline name = true) :
    lex (quoteName name) = some [wordToken name.dropLast] := by
  obtain ⟨hword, hname⟩ := eq_append_of_losesNewline h
  have hend : lex [.char '\n'] = some [] := by decide
  rw [quoteName_of_losesNewline h]
  conv_lhs => rw [hname]
  rw [lex_append_of_apart (lex_identifier hword) rfl, hend]
  rfl

/-- It is no identifier: an identifier does not end with a line feed, quoted or not. -/
theorem not_identifies_of_losesNewline (h : losesNewline name = true) (said : Text) :
    ¬ Identifies (quoteName name) said := by
  obtain ⟨-, hname⟩ := eq_append_of_losesNewline h
  have hlast : name.getLast? = some (.char '\n') := by rw [hname, List.getLast?_concat]
  rw [quoteName_of_losesNewline h]
  intro hidentifies
  cases hidentifies with
  | bare hword _ => exact newline_not_mem_identifier hword (List.mem_of_getLast? hlast)
  | quoted _ =>
    rw [inQuotes, List.getLast?_concat] at hlast
    exact absurd hlast (by decide)

end LosesNewline

/-! ## All names -/

/-- A name that is not lost stands as one identifier for itself. -/
theorem identifies_quoteName {name : Text} (h : losesNewline name = false) :
    Identifies (quoteName name) name := by
  unfold quoteName
  split
  · rename_i hbare
    rw [isBareName, Bool.and_eq_true, Bool.not_eq_true'] at hbare
    rw [dropFinalNewline_of_isIdentifier h hbare.1] at hbare
    exact .bare hbare.1 hbare.2
  · exact .quoted (escapes_escapeName name)

/-- A written name is an identifier only for itself, and only if it keeps its line feed. -/
theorem identifies_quoteName_iff {name said : Text} :
    Identifies (quoteName name) said ↔ losesNewline name = false ∧ said = name := by
  constructor
  · intro h
    have hkept : losesNewline name = false := by
      rw [Bool.eq_false_iff]
      exact fun hlost => not_identifies_of_losesNewline hlost said h
    exact ⟨hkept, h.unique (identifies_quoteName hkept)⟩
  · rintro ⟨hkept, rfl⟩
    exact identifies_quoteName hkept

/-- The token that a name is read as. -/
def readToken (name : Text) : Token :=
  if losesNewline name then wordToken name.dropLast else .id name

theorem readToken_of_kept {name : Text} (h : losesNewline name = false) :
    readToken name = .id name := by
  rw [readToken, h, if_neg Bool.false_ne_true]

theorem lex_quoteName_eq (name : Text) : lex (quoteName name) = some [readToken name] := by
  unfold readToken
  split
  · rename_i hlost
    exact lex_quoteName_of_losesNewline hlost
  · rename_i hkept
    exact lex_quoteName (Bool.eq_false_iff.mpr hkept)

/-- A node statement starts with the token of its name. -/
theorem NodeStatement.lex_text_eq (node : NodeStatement)
    (h : ∀ a ∈ node.attributes, a.isLegible = true) :
    lex node.text = some (readToken node.name :: bracketedTokens node.attributes) :=
  lex_append_bracketed (lex_quoteName_eq node.name) h

/-- An edge statement starts with the tokens of its ends. -/
theorem EdgeStatement.lex_text_eq (edge : EdgeStatement)
    (h : ∀ a ∈ edge.attributes, a.isLegible = true) :
    lex edge.text =
      some ([readToken edge.source, .arrow, readToken edge.target] ++
        bracketedTokens edge.attributes) := by
  have harrow : run .between (Text.ofString " -> ") = some ([.arrow], .between) := by decide
  refine lex_append_bracketed ?_ h
  rw [List.append_assoc, lex_append_of_apart (lex_quoteName_eq edge.source) rfl,
    lex_append_of_closed harrow, lex_quoteName_eq]
  rfl

/-- A written name is a single identifier with nothing left over, and it stands for the name and for
no other, exactly if the name is no identifier with a line feed behind it. Of such a name the word
in front of the line feed is read, which is another name or a keyword. Node statements and edges
show the same tokens, so that names which keep their line feeds are told apart everywhere. -/
theorem quoteName_identifies (name : Text) :
    (∀ said, Identifies (quoteName name) said ↔ losesNewline name = false ∧ said = name) ∧
      (losesNewline name = false → lex (quoteName name) = some [.id name]) ∧
      (losesNewline name = true →
        quoteName name = name ∧ lex (quoteName name) = some [wordToken name.dropLast]) ∧
      (∀ attributes, (∀ a ∈ attributes, Attribute.isLegible a = true) →
        lex (NodeStatement.text ⟨name, attributes⟩) =
            some (readToken name :: bracketedTokens attributes) ∧
          ∀ target, lex (EdgeStatement.text ⟨name, target, attributes⟩) =
            some ([readToken name, .arrow, readToken target] ++ bracketedTokens attributes)) ∧
      ∀ other, losesNewline name = false → losesNewline other = false →
        readToken name = readToken other → name = other := by
  refine ⟨fun said => identifies_quoteName_iff, lex_quoteName,
    fun hlost => ⟨quoteName_of_losesNewline hlost, lex_quoteName_of_losesNewline hlost⟩,
    fun attributes hlegible => ⟨?_, fun target => ?_⟩, fun other hkept hother heq => ?_⟩
  · exact NodeStatement.lex_text_eq ⟨name, attributes⟩ hlegible
  · exact EdgeStatement.lex_text_eq ⟨name, target, attributes⟩ hlegible
  · rw [readToken_of_kept hkept, readToken_of_kept hother] at heq
    simpa using heq

/-- The name of an activity with a line feed behind it is read as the name without it, and a keyword
with a line feed behind it as the keyword. -/
theorem not_identifies_line_feed :
    (∀ said, ¬ Identifies (quoteName "A\n") said) ∧
      lex (quoteName "A\n") = lex (quoteName "A") ∧
      lex (quoteName "node\n") = some [.keyword .node] :=
  ⟨not_identifies_of_losesNewline (by decide), by decide, by decide⟩

end FlowDiagram.Dot
