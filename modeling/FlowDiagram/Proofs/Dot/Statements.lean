import FlowDiagram.Dot.Graph
import FlowDiagram.Proofs.Dot.Token

/-!
# The tokens of a graph

A graph is written line by line, and every line is read as the tokens of its statement. The lines of
a name that holds line feeds stand between quotes, so they do not end the line of its statement.

## Main definitions

* `Dot.Attribute.isLegible`: whether an attribute is read as a key and a value.
* `Dot.LexedLines`: lines and the tokens they are read as.
* `Dot.Graph.tokens`: the tokens of a graph.

`Dot.Graph.lex_text` says that the text of a graph is read as its tokens.
-/

namespace FlowDiagram.Dot

/-! ## Attributes -/

/-- Whether a value is read as one token: plain text can be quoted and stays on its line, and HTML
text ends with the bracket that closes its first one. -/
def Value.isLegible : Value → Bool
  | .plain text => isQuotable text && !text.contains (.char '\n')
  | .html text => isHtml text

/-- The token of a value. -/
def Value.shownToken : Value → Token
  | .plain text => .id (if isBareValue text then text else shown false text)
  | .html text => .html text

/-- Whether an attribute is read as a key and a value. -/
def Attribute.isLegible (a : Attribute) : Bool :=
  isIdentifier a.key && !isKeyword a.key && a.value.isLegible

/-- The tokens of an attribute. -/
def Attribute.tokens (a : Attribute) : List Token :=
  [.id a.key, .equals, a.value.shownToken]

/-- The tokens of attributes in brackets. -/
def bracketedTokens (attributes : List Attribute) : List Token :=
  if attributes.isEmpty then []
  else .openBracket :: attributes.flatMap Attribute.tokens ++ [.closeBracket]

theorem Value.lex_token {value : Value} (h : value.isLegible = true) :
    lex value.token = some [value.shownToken] := by
  cases value with
  | plain text =>
    rw [isLegible, Bool.and_eq_true, Bool.not_eq_true'] at h
    refine lex_quoteValue h.1 fun hmem => ?_
    rw [List.contains_iff_mem.mpr hmem] at h
    exact nomatch h.2
  | html text => exact lex_html h

theorem Attribute.lex_text {a : Attribute} (h : a.isLegible = true) :
    lex a.text = some a.tokens := by
  rw [isLegible, Bool.and_eq_true, Bool.and_eq_true, Bool.not_eq_true'] at h
  have hkey := lex_bareWord h.1.1 h.1.2
  have hsign : run .between (Text.ofString "=") = some ([.equals], .between) := by decide
  rw [text, List.append_assoc, lex_append_of_apart hkey rfl, lex_append_of_closed hsign,
    Value.lex_token h.2]
  rfl

theorem lex_attributesText {attributes : List Attribute}
    (h : ∀ a ∈ attributes, a.isLegible = true) :
    lex (attributesText attributes) = some (attributes.flatMap Attribute.tokens) := by
  induction attributes with
  | nil => rfl
  | cons a attributes ih =>
    rw [List.forall_mem_cons] at h
    cases attributes with
    | nil => simpa [attributesText, Text.joined] using Attribute.lex_text h.1
    | cons b attributes =>
      have hspace : run .between (Text.ofString " ") = some ([], .between) := by decide
      have hjoined : attributesText (a :: b :: attributes) =
          a.text ++ (" " ++ attributesText (b :: attributes)) := by
        simp [attributesText, Text.joined, List.intercalate_cons_cons]
      rw [hjoined, lex_append_of_apart (Attribute.lex_text h.1) rfl, lex_append_of_closed hspace,
        ih h.2]
      rfl

/-- A statement is read as its tokens and those of the attributes in brackets behind it. -/
theorem lex_append_bracketed {text : Text} {tokens : List Token} (htext : lex text = some tokens)
    {attributes : List Attribute} (h : ∀ a ∈ attributes, a.isLegible = true) :
    lex (text ++ bracketed attributes) = some (tokens ++ bracketedTokens attributes) := by
  rw [bracketed, bracketedTokens]
  split
  · simpa using htext
  · have hopen : run .between (Text.ofString " [") = some ([.openBracket], .between) := by decide
    have hclose : lex (Text.ofString "]") = some [.closeBracket] := by decide
    rw [List.append_assoc, lex_append_of_apart htext rfl, lex_append_of_closed hopen,
      lex_append_of_apart (lex_attributesText h) rfl, hclose]
    simp

/-! ## Statements -/

/-- The tokens of a node statement. -/
def NodeStatement.tokens (node : NodeStatement) : List Token :=
  .id node.name :: bracketedTokens node.attributes

/-- The tokens of an edge statement. -/
def EdgeStatement.tokens (edge : EdgeStatement) : List Token :=
  [.id edge.source, .arrow, .id edge.target] ++ bracketedTokens edge.attributes

/-- The tokens in front of the braces of a subgraph. -/
def Subgraph.headTokens (subgraph : Subgraph) : List Token :=
  match subgraph.name with
  | none => []
  | some name => [.keyword .subgraph, .id name]

/-- The tokens of a subgraph. -/
def Subgraph.tokens (subgraph : Subgraph) : List Token :=
  subgraph.headTokens ++ [.openBrace] ++ subgraph.attributes.flatMap Attribute.tokens ++
    subgraph.nodes.flatMap NodeStatement.tokens ++ [.closeBrace]

/-- The tokens of a statement. -/
def Statement.tokens : Statement → List Token
  | .node n => n.tokens
  | .edge e => e.tokens
  | .subgraph s => s.tokens

/-- The names in a statement. -/
def Statement.names : Statement → List Text
  | .node n => [n.name]
  | .edge e => [e.source, e.target]
  | .subgraph s => s.name.toList ++ s.nodes.map NodeStatement.name

/-- A statement whose names and attributes are read as they are. -/
structure Statement.Legible (statement : Statement) : Prop where
  names : ∀ name ∈ statement.names, losesNewline name = false
  attributes : ∀ a ∈ Graph.attributesOf statement, a.isLegible = true

/-- The statement of a node of a subgraph. -/
theorem Statement.Legible.node {subgraph : Subgraph} (h : (Statement.subgraph subgraph).Legible)
    {node : NodeStatement} (hnode : node ∈ subgraph.nodes) : (Statement.node node).Legible where
  names name hname := by
    rw [List.mem_singleton.mp hname]
    exact h.names _ (List.mem_append_right _ (List.mem_map_of_mem hnode))
  attributes a ha :=
    h.attributes a (List.mem_append_right _ (List.mem_flatMap.mpr ⟨node, hnode, ha⟩))

theorem NodeStatement.lex_text {node : NodeStatement} (h : (Statement.node node).Legible) :
    lex node.text = some node.tokens :=
  lex_append_bracketed (lex_quoteName (h.names _ List.mem_cons_self)) h.attributes

theorem EdgeStatement.lex_text {edge : EdgeStatement} (h : (Statement.edge edge).Legible) :
    lex edge.text = some edge.tokens := by
  have harrow : run .between (Text.ofString " -> ") = some ([.arrow], .between) := by decide
  have hsource := lex_quoteName (h.names edge.source (by simp [Statement.names]))
  have htarget := lex_quoteName (h.names edge.target (by simp [Statement.names]))
  refine lex_append_bracketed ?_ h.attributes
  rw [List.append_assoc, lex_append_of_apart hsource rfl, lex_append_of_closed harrow, htarget]
  rfl

theorem Subgraph.lex_opening {subgraph : Subgraph} (h : (Statement.subgraph subgraph).Legible) :
    lex subgraph.opening = some (subgraph.headTokens ++ [.openBrace]) := by
  rw [opening, headTokens]
  cases hname : subgraph.name with
  | none => decide
  | some name =>
    have hword :
        run .between (Text.ofString "subgraph ") = some ([.keyword .subgraph], .between) := by
      decide
    have hbrace : lex (Text.ofString " \x7b") = some [.openBrace] := by decide
    dsimp only
    rw [List.append_assoc, lex_append_of_closed hword,
      lex_append_of_apart (lex_quoteName (h.names name (by simp [Statement.names, hname]))) rfl,
      hbrace]
    rfl

/-! ## Lines -/

/-- Lines that are read one after the other as some tokens. -/
inductive LexedLines : List Text → List Token → Prop
  | nil : LexedLines [] []
  | cons {line : Text} {tokens more : List Token} {lines : List Text} (h : lex line = some tokens)
      (rest : LexedLines lines more) : LexedLines (line :: lines) (tokens ++ more)

namespace LexedLines

variable {lines : List Text} {tokens : List Token}

theorem single {line : Text} (h : lex line = some tokens) : LexedLines [line] tokens := by
  simpa using LexedLines.cons h .nil

theorem append {lines' : List Text} {tokens' : List Token} (h : LexedLines lines tokens)
    (h' : LexedLines lines' tokens') : LexedLines (lines ++ lines') (tokens ++ tokens') := by
  induction h with
  | nil => exact h'
  | cons hline _ ih => simpa using LexedLines.cons hline ih

theorem flatMap {α : Type} {items : List α} {linesOf : α → List Text} {tokensOf : α → List Token}
    (h : ∀ a ∈ items, LexedLines (linesOf a) (tokensOf a)) :
    LexedLines (items.flatMap linesOf) (items.flatMap tokensOf) := by
  induction items with
  | nil => exact .nil
  | cons a items ih =>
    rw [List.forall_mem_cons] at h
    exact h.1.append (ih h.2)

/-- Lines are read in the same way further in. -/
theorem map_indent (h : LexedLines lines tokens) : LexedLines (lines.map indent) tokens := by
  induction h with
  | nil => exact .nil
  | cons hline _ ih =>
    have htab : run .between (Text.ofString "\t") = some ([], .between) := by decide
    refine .cons ?_ ih
    rw [indent, lex_append_of_closed htab, hline]
    rfl

/-- The text of lines is read as their tokens. -/
theorem lex_flatMap (h : LexedLines lines tokens) :
    lex (lines.flatMap (· ++ "\n")) = some tokens := by
  induction h with
  | nil => rfl
  | cons hline _ ih =>
    have hend : run .between (Text.ofString "\n") = some ([], .between) := by decide
    rw [List.flatMap_cons, List.append_assoc, lex_append_of_apart hline rfl,
      lex_append_of_closed hend, ih]
    rfl

end LexedLines

theorem Statement.lexedLines {statement : Statement} (h : statement.Legible) :
    LexedLines statement.lines statement.tokens := by
  cases statement with
  | node n => exact .single (NodeStatement.lex_text h)
  | edge e => exact .single (EdgeStatement.lex_text h)
  | subgraph s =>
    have hclose : lex (Text.ofString "\x7d") = some [.closeBrace] := by decide
    have hnodes : LexedLines (s.nodes.map NodeStatement.text)
        (s.nodes.flatMap NodeStatement.tokens) := by
      rw [List.map_eq_flatMap]
      exact .flatMap fun n hn => .single (NodeStatement.lex_text (h.node hn))
    have hattributes := lex_attributesText fun a ha => h.attributes a (List.mem_append_left _ ha)
    have hinner := (LexedLines.cons hattributes hnodes).map_indent
    simpa [Statement.lines, Statement.tokens, Subgraph.tokens] using
      LexedLines.cons (Subgraph.lex_opening h) (hinner.append (.single hclose))

/-! ## Graphs -/

namespace Graph

/-- The tokens in front of the braces of a graph. -/
def headTokens (graph : Graph) : List Token :=
  .keyword .digraph :: if graph.name.isEmpty then [] else [.id graph.name]

/-- The tokens of the attributes and the defaults of a graph. -/
def defaultTokens (graph : Graph) : List Token :=
  (.keyword .graph :: bracketedTokens graph.attributes) ++
    (.keyword .node :: bracketedTokens graph.nodeDefaults) ++
    (.keyword .edge :: bracketedTokens graph.edgeDefaults)

/-- The tokens of a graph. -/
def tokens (graph : Graph) : List Token :=
  graph.headTokens ++ [.openBrace] ++ graph.defaultTokens ++
    graph.statements.flatMap Statement.tokens ++ [.closeBrace]

/-- A graph whose names and attributes are read as they are, with at least one attribute and one
default of each kind. -/
structure Legible (graph : Graph) : Prop where
  name : losesNewline graph.name = false
  attributes_ne : graph.attributes ≠ []
  nodeDefaults_ne : graph.nodeDefaults ≠ []
  edgeDefaults_ne : graph.edgeDefaults ≠ []
  attributes : ∀ a ∈ graph.attributes, a.isLegible = true
  nodeDefaults : ∀ a ∈ graph.nodeDefaults, a.isLegible = true
  edgeDefaults : ∀ a ∈ graph.edgeDefaults, a.isLegible = true
  statements : ∀ s ∈ graph.statements, s.Legible

theorem lex_opening {graph : Graph} (h : losesNewline graph.name = false) :
    lex graph.opening = some (graph.headTokens ++ [.openBrace]) := by
  rw [opening, headTokens]
  split
  · decide
  · have hword :
        run .between (Text.ofString "digraph ") = some ([.keyword .digraph], .between) := by
      decide
    have hbrace : lex (Text.ofString " \x7b") = some [.openBrace] := by decide
    rw [List.append_assoc, lex_append_of_closed hword,
      lex_append_of_apart (lex_quoteName h) rfl, hbrace]
    rfl

theorem lexedLines_body {graph : Graph} (h : graph.Legible) :
    LexedLines graph.body
      (graph.defaultTokens ++ graph.statements.flatMap Statement.tokens) := by
  have hgraph : lex (Text.ofString "graph") = some [.keyword .graph] := by decide
  have hnode : lex (Text.ofString "node") = some [.keyword .node] := by decide
  have hedge : lex (Text.ofString "edge") = some [.keyword .edge] := by decide
  have hstatements : LexedLines (graph.statements.flatMap Statement.lines)
      (graph.statements.flatMap Statement.tokens) :=
    .flatMap fun s hs => Statement.lexedLines (h.statements s hs)
  have hlines := LexedLines.cons (lex_append_bracketed hgraph h.attributes)
    (.cons (lex_append_bracketed hnode h.nodeDefaults)
      (.cons (lex_append_bracketed hedge h.edgeDefaults) hstatements))
  simpa [body, defaultTokens] using hlines

/-- The text of a graph is read as its tokens. -/
theorem lex_text {graph : Graph} (h : graph.Legible) : lex graph.text = some graph.tokens := by
  have hclose : lex (Text.ofString "\x7d") = some [.closeBrace] := by decide
  have hlines := LexedLines.cons (lex_opening h.name)
    ((lexedLines_body h).map_indent.append (.single hclose))
  have htext := hlines.lex_flatMap
  simpa [text, tokens] using htext

end Graph

end FlowDiagram.Dot
