import FlowDiagram.Proofs.Dot.Statements

/-!
# Reading DOT graphs

A directed graph is read token by token. The reader keeps the subgraphs that are open and notes down
every node statement with the subgraphs around it, every edge with its two ends, and every subgraph.
Attributes are read over.

## Main definitions

* `Dot.Outline`: what is noted down of a graph.
* `Dot.Reader`: the state of a reader.
* `Dot.read`: the outline of a DOT text, if it is one.
* `Dot.Graph.outline`: the outline of a graph.

`Dot.read_text` says that the text of a graph is read as its outline.
-/

namespace FlowDiagram.Dot

/-- What is noted down of a graph: its node statements, each with the names of the subgraphs around
it, the innermost one first; the ends of its edges; and its subgraphs by their names. -/
structure Outline where
  nodes : List (Text × List (Option Text))
  edges : List (Text × Text)
  subgraphs : List (Option Text)
  deriving DecidableEq, Repr

/-- What a reader expects. -/
inductive Expected
  /-- The first keyword of a graph. -/
  | header
  /-- The name of the graph or its opening brace. -/
  | title
  /-- The opening brace of the graph. -/
  | body
  /-- A statement or a closing brace. -/
  | statement
  /-- What a statement goes on with after a name at its start. -/
  | afterName (name : Text)
  /-- The value of an attribute of the graph. -/
  | assigned
  /-- The target of an edge. -/
  | target (source : Text)
  /-- What an edge statement goes on with after a target. -/
  | afterTarget (target : Text)
  /-- The brackets behind a keyword. -/
  | defaults
  /-- The key of an attribute in brackets, or the closing bracket. -/
  | key
  /-- The sign behind the key of an attribute. -/
  | sign
  /-- The value of an attribute. -/
  | value
  /-- The name of a subgraph or its opening brace. -/
  | subgraphTitle
  /-- The opening brace of a named subgraph. -/
  | subgraphBody (name : Text)
  /-- Nothing, as the graph is closed. -/
  | nothing
  deriving DecidableEq, Repr

/-- The state of a reader: the open subgraphs, the innermost one first, what was noted down, and
what is expected next. -/
structure Reader where
  scopes : List (Option Text)
  outline : Outline
  expected : Expected
  deriving DecidableEq, Repr

namespace Reader

/-- The reader before the first token. -/
def start : Reader :=
  { scopes := [], outline := ⟨[], [], []⟩, expected := .header }

/-- Notes down a node statement. -/
def addNode (reader : Reader) (name : Text) : Reader :=
  { reader with
    outline := { reader.outline with
      nodes := reader.outline.nodes ++ [(name, reader.scopes)] } }

/-- Notes down an edge. -/
def addEdge (reader : Reader) (source target : Text) : Reader :=
  { reader with
    outline := { reader.outline with
      edges := reader.outline.edges ++ [(source, target)] } }

/-- Notes down a subgraph and goes into it. -/
def openScope (reader : Reader) (name : Option Text) : Reader :=
  { scopes := name :: reader.scopes
    outline := { reader.outline with subgraphs := reader.outline.subgraphs ++ [name] }
    expected := .statement }

/-- Leaves the innermost subgraph, or the graph if none is open. -/
def closeScope (reader : Reader) : Reader :=
  match reader.scopes with
  | [] => { reader with expected := .nothing }
  | _ :: scopes => { reader with scopes, expected := .statement }

/-- Expects something else. -/
def expect (reader : Reader) (expected : Expected) : Reader :=
  { reader with expected }

/-- Reads the first token of a statement, or the end of the statements. -/
def beginStatement (reader : Reader) : Token → Option Reader
  | .id name => some (reader.expect (.afterName name))
  | .keyword .node => some (reader.expect .defaults)
  | .keyword .edge => some (reader.expect .defaults)
  | .keyword .graph => some (reader.expect .defaults)
  | .keyword .subgraph => some (reader.expect .subgraphTitle)
  | .openBrace => some (reader.openScope none)
  | .closeBrace => some reader.closeScope
  | .semicolon => some (reader.expect .statement)
  | _ => none

/-- Whether a token is a value. -/
def isValue : Token → Bool
  | .id _ => true
  | .html _ => true
  | _ => false

/-- Reads a token. -/
def advance (reader : Reader) (token : Token) : Option Reader :=
  match reader.expected, token with
  | .header, .keyword .digraph => some (reader.expect .title)
  | .title, .id _ => some (reader.expect .body)
  | .title, .openBrace => some (reader.expect .statement)
  | .body, .openBrace => some (reader.expect .statement)
  | .statement, token => reader.beginStatement token
  | .afterName _, .equals => some (reader.expect .assigned)
  | .afterName name, .arrow => some (reader.expect (.target name))
  | .afterName name, .openBracket => some ((reader.addNode name).expect .key)
  | .afterName name, token => (reader.addNode name).beginStatement token
  | .assigned, token => if isValue token then some (reader.expect .statement) else none
  | .target source, .id target =>
    some ((reader.addEdge source target).expect (.afterTarget target))
  | .afterTarget target, .arrow => some (reader.expect (.target target))
  | .afterTarget _, .openBracket => some (reader.expect .key)
  | .afterTarget _, token => reader.beginStatement token
  | .defaults, .openBracket => some (reader.expect .key)
  | .key, .id _ => some (reader.expect .sign)
  | .key, .semicolon => some reader
  | .key, .comma => some reader
  | .key, .closeBracket => some (reader.expect .statement)
  | .sign, .equals => some (reader.expect .value)
  | .value, token => if isValue token then some (reader.expect .key) else none
  | .subgraphTitle, .id name => some (reader.expect (.subgraphBody name))
  | .subgraphTitle, .openBrace => some (reader.openScope none)
  | .subgraphBody name, .openBrace => some (reader.openScope (some name))
  | _, _ => none

/-- Reads tokens one after the other. -/
def advanceAll (reader : Reader) : List Token → Option Reader
  | [] => some reader
  | token :: tokens => (reader.advance token).bind (advanceAll · tokens)

end Reader

/-- The outline of a text, if it is a directed graph. -/
def read (text : Text) : Option Outline :=
  (lex text).bind fun tokens =>
    (Reader.start.advanceAll tokens).bind fun reader =>
      if reader.expected = .nothing then some reader.outline else none

/-! ## Outlines -/

/-- The node statements of a statement. -/
def Statement.nodes : Statement → List (Text × List (Option Text))
  | .node n => [(n.name, [])]
  | .edge _ => []
  | .subgraph s => s.nodes.map fun n => (n.name, [s.name])

/-- The edges of a statement. -/
def Statement.edges : Statement → List (Text × Text)
  | .node _ => []
  | .edge e => [(e.source, e.target)]
  | .subgraph _ => []

/-- The subgraphs of a statement. -/
def Statement.subgraphs : Statement → List (Option Text)
  | .node _ => []
  | .edge _ => []
  | .subgraph s => [s.name]

/-- The outline of a graph. -/
def Graph.outline (graph : Graph) : Outline :=
  { nodes := graph.statements.flatMap Statement.nodes
    edges := graph.statements.flatMap Statement.edges
    subgraphs := graph.statements.flatMap Statement.subgraphs }

namespace Reader

variable {reader : Reader} {rest : List Token}

theorem advanceAll_append (reader : Reader) (before behind : List Token) :
    reader.advanceAll (before ++ behind) =
      (reader.advanceAll before).bind (advanceAll · behind) := by
  induction before generalizing reader with
  | nil => rfl
  | cons token before ih =>
    rw [List.cons_append, advanceAll, advanceAll]
    cases reader.advance token with
    | none => rfl
    | some next => exact ih next

theorem expect_of_expected {expected : Expected} (h : reader.expected = expected) :
    reader.expect expected = reader := by
  rw [expect, ← h]

/-! ## Attributes -/

/-- An attribute in brackets is read over. -/
theorem advanceAll_attribute (h : reader.expected = .key) (a : Attribute) (rest : List Token) :
    reader.advanceAll (a.tokens ++ rest) = reader.advanceAll rest := by
  obtain ⟨scopes, outline, expected⟩ := reader
  subst h
  rw [Attribute.tokens]
  cases a.value <;> rfl

theorem advanceAll_attributes (h : reader.expected = .key) (attributes : List Attribute)
    (rest : List Token) :
    reader.advanceAll (attributes.flatMap Attribute.tokens ++ rest) = reader.advanceAll rest := by
  induction attributes with
  | nil => rfl
  | cons a attributes ih =>
    rw [List.flatMap_cons, List.append_assoc, advanceAll_attribute h, ih]

/-- Brackets with attributes in them are read over. -/
theorem advanceAll_bracketed {opened : Reader} {attributes : List Attribute} (hne : attributes ≠ [])
    (hopen : reader.advance .openBracket = some (opened.expect .key)) (rest : List Token) :
    reader.advanceAll (bracketedTokens attributes ++ rest) =
      (opened.expect .statement).advanceAll rest := by
  have hempty : attributes.isEmpty = false := List.isEmpty_eq_false_iff.mpr hne
  rw [bracketedTokens, hempty, if_neg Bool.false_ne_true, List.cons_append, List.cons_append,
    advanceAll, hopen, Option.bind_some, List.append_assoc, advanceAll_attributes rfl]
  rfl

/-- The attributes of a subgraph are read over. -/
theorem advanceAll_assignments (h : reader.expected = .statement) (attributes : List Attribute)
    (rest : List Token) :
    reader.advanceAll (attributes.flatMap Attribute.tokens ++ rest) = reader.advanceAll rest := by
  induction attributes with
  | nil => rfl
  | cons a attributes ih =>
    rw [List.flatMap_cons, List.append_assoc, ← ih]
    obtain ⟨scopes, outline, expected⟩ := reader
    subst h
    rw [Attribute.tokens]
    cases a.value <;> rfl

/-! ## Statements -/

/-- Whether a token starts a statement or ends the statements. -/
def opensStatement : Token → Bool
  | .id _ => true
  | .keyword _ => true
  | .openBrace => true
  | .closeBrace => true
  | _ => false

/-- Whether tokens start with a statement or with the end of the statements. -/
def startsStatement (tokens : List Token) : Bool :=
  tokens.head?.any opensStatement

/-- Where a statement may start, a token starts one. -/
theorem advance_of_statement (h : reader.expected = .statement) (token : Token) :
    reader.advance token = reader.beginStatement token := by
  obtain ⟨scopes, outline, expected⟩ := reader
  subst h
  cases token <;> rfl

theorem beginStatement_expect (reader : Reader) (expected : Expected) (token : Token) :
    (reader.expect expected).beginStatement token = reader.beginStatement token := by
  cases token with
  | keyword word => cases word <;> rfl
  | closeBrace =>
    obtain ⟨scopes, outline, expected'⟩ := reader
    cases scopes <;> rfl
  | _ => rfl

/-- A node statement without attributes ends where the next statement starts. -/
theorem advanceAll_afterName (h : reader.expected = .statement) (name : Text)
    (hrest : startsStatement rest = true) :
    (reader.expect (.afterName name)).advanceAll rest = (reader.addNode name).advanceAll rest := by
  cases rest with
  | nil => exact nomatch hrest
  | cons token rest =>
    have hnext : (reader.expect (.afterName name)).advance token =
        (reader.addNode name).advance token := by
      have hadded : (reader.addNode name).expected = .statement := h
      rw [advance_of_statement hadded, ← beginStatement_expect (reader.addNode name) (.afterName name)]
      cases token with
      | equals => exact nomatch hrest
      | arrow => exact nomatch hrest
      | openBracket => exact nomatch hrest
      | _ => rfl
    rw [advanceAll, advanceAll, hnext]

theorem advanceAll_afterTarget (h : reader.expected = .statement) (target : Text)
    (hrest : startsStatement rest = true) :
    (reader.expect (.afterTarget target)).advanceAll rest = reader.advanceAll rest := by
  cases rest with
  | nil => exact nomatch hrest
  | cons token rest =>
    have hnext : (reader.expect (.afterTarget target)).advance token = reader.advance token := by
      rw [advance_of_statement h, ← beginStatement_expect reader (.afterTarget target)]
      cases token with
      | arrow => exact nomatch hrest
      | openBracket => exact nomatch hrest
      | _ => rfl
    rw [advanceAll, advanceAll, hnext]

/-- A node statement is noted down. -/
theorem advanceAll_node (h : reader.expected = .statement) (node : NodeStatement)
    (hrest : startsStatement rest = true) :
    reader.advanceAll (node.tokens ++ rest) = (reader.addNode node.name).advanceAll rest := by
  have hname : reader.advance (.id node.name) = some (reader.expect (.afterName node.name)) := by
    rw [advance_of_statement h, beginStatement]
  rw [NodeStatement.tokens, List.cons_append, advanceAll, hname, Option.bind_some]
  by_cases hempty : node.attributes = []
  · rw [hempty]
    exact advanceAll_afterName h node.name hrest
  · have hopen : (reader.expect (.afterName node.name)).advance .openBracket =
        some ((reader.addNode node.name).expect .key) := rfl
    have hadded : (reader.addNode node.name).expected = .statement := h
    rw [advanceAll_bracketed hempty hopen, expect_of_expected hadded]

/-- An edge statement is noted down. -/
theorem advanceAll_edge (h : reader.expected = .statement) (edge : EdgeStatement)
    (hrest : startsStatement rest = true) :
    reader.advanceAll (edge.tokens ++ rest) =
      (reader.addEdge edge.source edge.target).advanceAll rest := by
  have hsource :
      reader.advance (.id edge.source) = some (reader.expect (.afterName edge.source)) := by
    rw [advance_of_statement h, beginStatement]
  have hadded : (reader.addEdge edge.source edge.target).expected = .statement := h
  rw [EdgeStatement.tokens, List.append_assoc, List.cons_append, advanceAll, hsource,
    Option.bind_some]
  by_cases hempty : edge.attributes = []
  · rw [hempty]
    exact advanceAll_afterTarget hadded edge.target hrest
  · have hopen : ((reader.addEdge edge.source edge.target).expect
        (.afterTarget edge.target)).advance .openBracket =
          some ((reader.addEdge edge.source edge.target).expect .key) := rfl
    have hends := advanceAll_bracketed hempty hopen rest
    rw [expect_of_expected hadded] at hends
    exact hends

/-- Notes down node statements. -/
def addNodes (reader : Reader) (nodes : List NodeStatement) : Reader :=
  { reader with
    outline := { reader.outline with
      nodes := reader.outline.nodes ++
        nodes.map fun node : NodeStatement => (node.name, reader.scopes) } }

theorem startsStatement_nodes (nodes : List NodeStatement) (hrest : startsStatement rest = true) :
    startsStatement (nodes.flatMap NodeStatement.tokens ++ rest) = true := by
  cases nodes with
  | nil => exact hrest
  | cons node nodes => rfl

/-- The node statements of a subgraph are noted down one after the other. -/
theorem advanceAll_nodes (h : reader.expected = .statement) (nodes : List NodeStatement)
    (hrest : startsStatement rest = true) :
    reader.advanceAll (nodes.flatMap NodeStatement.tokens ++ rest) =
      (reader.addNodes nodes).advanceAll rest := by
  induction nodes generalizing reader with
  | nil =>
    have hsame : reader.addNodes [] = reader := by
      simp [addNodes]
    rw [hsame]
    rfl
  | cons node nodes ih =>
    have hmore : (reader.addNode node.name).addNodes nodes = reader.addNodes (node :: nodes) := by
      simp [addNode, addNodes]
    have hadded : (reader.addNode node.name).expected = .statement := h
    rw [List.flatMap_cons, List.append_assoc,
      advanceAll_node h node (startsStatement_nodes nodes hrest), ih hadded, hmore]

/-- Notes down a statement of the graph itself. -/
def addStatement (reader : Reader) (statement : Statement) : Reader :=
  { reader with
    outline :=
      { nodes := reader.outline.nodes ++ statement.nodes
        edges := reader.outline.edges ++ statement.edges
        subgraphs := reader.outline.subgraphs ++ statement.subgraphs } }

/-- A subgraph of the graph is noted down with its nodes. -/
theorem advanceAll_subgraph (h : reader.expected = .statement) (hscopes : reader.scopes = [])
    (subgraph : Subgraph) (rest : List Token) :
    reader.advanceAll (subgraph.tokens ++ rest) =
      (reader.addStatement (.subgraph subgraph)).advanceAll rest := by
  have hopen : reader.advanceAll (subgraph.headTokens ++ [.openBrace]) =
      some (reader.openScope subgraph.name) := by
    obtain ⟨scopes, outline, expected⟩ := reader
    subst h
    rw [Subgraph.headTokens]
    cases subgraph.name <;> rfl
  have hclose : ((reader.openScope subgraph.name).addNodes subgraph.nodes).advance .closeBrace =
      some (reader.addStatement (.subgraph subgraph)) := by
    obtain ⟨scopes, outline, expected⟩ := reader
    subst h hscopes
    rw [advance_of_statement rfl]
    simp [openScope, addNodes, beginStatement, closeScope, addStatement, Statement.nodes,
      Statement.edges, Statement.subgraphs]
  have hinner : (reader.openScope subgraph.name).expected = .statement := rfl
  rw [Subgraph.tokens]
  simp only [List.append_assoc]
  rw [← List.append_assoc subgraph.headTokens, advanceAll_append, hopen, Option.bind_some,
    advanceAll_assignments hinner, advanceAll_nodes hinner _ rfl, List.singleton_append, advanceAll,
    hclose, Option.bind_some]

theorem startsStatement_statement (statement : Statement) (rest : List Token) :
    startsStatement (statement.tokens ++ rest) = true := by
  cases statement with
  | node n => rfl
  | edge e => rfl
  | subgraph s =>
    rw [Statement.tokens, Subgraph.tokens, Subgraph.headTokens]
    cases s.name <;> rfl

theorem startsStatement_statements (statements : List Statement)
    (hrest : startsStatement rest = true) :
    startsStatement (statements.flatMap Statement.tokens ++ rest) = true := by
  cases statements with
  | nil => exact hrest
  | cons statement statements =>
    rw [List.flatMap_cons, List.append_assoc]
    exact startsStatement_statement statement _

/-- A statement of the graph is noted down. -/
theorem advanceAll_statement (h : reader.expected = .statement) (hscopes : reader.scopes = [])
    (statement : Statement) (hrest : startsStatement rest = true) :
    reader.advanceAll (statement.tokens ++ rest) =
      (reader.addStatement statement).advanceAll rest := by
  cases statement with
  | node n =>
    have hadded : reader.addNode n.name = reader.addStatement (.node n) := by
      simp [addNode, addStatement, Statement.nodes, Statement.edges, Statement.subgraphs, hscopes]
    rw [← hadded]
    exact advanceAll_node h n hrest
  | edge e =>
    have hadded : reader.addEdge e.source e.target = reader.addStatement (.edge e) := by
      simp [addEdge, addStatement, Statement.nodes, Statement.edges, Statement.subgraphs]
    rw [← hadded]
    exact advanceAll_edge h e hrest
  | subgraph s => exact advanceAll_subgraph h hscopes s rest

/-- The statements of the graph are noted down one after the other. -/
theorem advanceAll_statements (h : reader.expected = .statement) (hscopes : reader.scopes = [])
    (statements : List Statement) (hrest : startsStatement rest = true) :
    reader.advanceAll (statements.flatMap Statement.tokens ++ rest) =
      (statements.foldl addStatement reader).advanceAll rest := by
  induction statements generalizing reader with
  | nil => rfl
  | cons statement statements ih =>
    rw [List.flatMap_cons, List.append_assoc, advanceAll_statement h hscopes statement
      (startsStatement_statements statements hrest), List.foldl_cons]
    exact ih h hscopes

theorem foldl_addStatement (reader : Reader) (statements : List Statement) :
    statements.foldl addStatement reader =
      { reader with
        outline :=
          { nodes := reader.outline.nodes ++ statements.flatMap Statement.nodes
            edges := reader.outline.edges ++ statements.flatMap Statement.edges
            subgraphs :=
              reader.outline.subgraphs ++ statements.flatMap Statement.subgraphs } } := by
  induction statements generalizing reader with
  | nil => simp
  | cons statement statements ih => simp [ih, addStatement]

end Reader

/-! ## Graphs -/

/-- The defaults of a graph are read over. -/
theorem Reader.advanceAll_defaults {reader : Reader} (h : reader.expected = .statement)
    {word : Keyword} (hword : word = .graph ∨ word = .node ∨ word = .edge)
    {attributes : List Attribute} (hne : attributes ≠ []) (rest : List Token) :
    reader.advanceAll (.keyword word :: bracketedTokens attributes ++ rest) =
      reader.advanceAll rest := by
  have hkeyword : reader.advance (.keyword word) = some (reader.expect .defaults) := by
    rcases hword with rfl | rfl | rfl <;> simp [advance, h, beginStatement]
  have hopen : (reader.expect .defaults).advance .openBracket = some (reader.expect .key) := rfl
  rw [List.cons_append, advanceAll, hkeyword, Option.bind_some, advanceAll_bracketed hne hopen,
    expect_of_expected h]

/-- The tokens of a graph are read as its outline. -/
theorem Graph.advanceAll_tokens {graph : Graph} (h : graph.Legible) :
    Reader.start.advanceAll graph.tokens =
      some { scopes := [], outline := graph.outline, expected := .nothing } := by
  have hopen : Reader.start.advanceAll (graph.headTokens ++ [.openBrace]) =
      some (Reader.start.expect .statement) := by
    rw [Graph.headTokens]
    split <;> rfl
  have hopened : (Reader.start.expect .statement).expected = .statement := rfl
  rw [Graph.tokens, defaultTokens]
  simp only [List.append_assoc]
  rw [← List.append_assoc graph.headTokens, Reader.advanceAll_append, hopen, Option.bind_some,
    Reader.advanceAll_defaults hopened (Or.inl rfl) h.attributes_ne,
    Reader.advanceAll_defaults hopened (Or.inr (Or.inl rfl)) h.nodeDefaults_ne,
    Reader.advanceAll_defaults hopened (Or.inr (Or.inr rfl)) h.edgeDefaults_ne,
    Reader.advanceAll_statements hopened rfl _ rfl, Reader.foldl_addStatement]
  rfl

/-- The text of a graph is read as its outline. -/
theorem read_text {graph : Graph} (h : graph.Legible) : read graph.text = some graph.outline := by
  rw [read, Graph.lex_text h, Option.bind_some, Graph.advanceAll_tokens h]
  rfl

end FlowDiagram.Dot
