import FlowDiagram.Dot.Token

/-!
# DOT graphs

A DOT graph as its statements, and its text. A statement stands on a line of its own, with one tab
per level in front; names and labels that hold line breaks simply contain them.

## Main definitions

* `Dot.Graph`: a directed graph with its statements in order.
* `Dot.Graph.text`: the graph as DOT text.
* `Dot.Graph.isWritable`: whether all labels of the graph can be quoted.
-/

namespace FlowDiagram.Dot

/-- The value of an attribute: plain text, or an HTML label that is written as it is. -/
inductive Value
  | plain (text : Text)
  | html (text : Text)
  deriving DecidableEq, Repr

/-- A value as a DOT token. -/
def Value.token : Value → Text
  | .plain text => quoteValue text
  | .html text => text

/-- Whether a value can be written. -/
def Value.isWritable : Value → Bool
  | .plain text => isBareValue text || isQuotable text
  | .html _ => true

/-- An attribute. -/
structure Attribute where
  key : String
  value : Value
  deriving DecidableEq, Repr

/-- An attribute of plain text. -/
def Attribute.plain (key : String) (text : Text) : Attribute := ⟨key, .plain text⟩

/-- An attribute as it is written. -/
def Attribute.text (a : Attribute) : Text :=
  a.key ++ "=" ++ a.value.token

/-- Attributes separated by spaces. -/
def attributesText (attributes : List Attribute) : Text :=
  Text.joined " " (attributes.map Attribute.text)

/-- Attributes in brackets after a statement, or nothing if there are none. -/
def bracketed (attributes : List Attribute) : Text :=
  if attributes.isEmpty then [] else " [" ++ attributesText attributes ++ "]"

/-- A node statement. -/
structure NodeStatement where
  name : Text
  attributes : List Attribute
  deriving DecidableEq, Repr

/-- A node statement as it is written. -/
def NodeStatement.text (node : NodeStatement) : Text :=
  quoteName node.name ++ bracketed node.attributes

/-- An edge statement. -/
structure EdgeStatement where
  source : Text
  target : Text
  attributes : List Attribute
  deriving DecidableEq, Repr

/-- An edge statement as it is written. -/
def EdgeStatement.text (edge : EdgeStatement) : Text :=
  quoteName edge.source ++ " -> " ++ quoteName edge.target ++ bracketed edge.attributes

/-- A subgraph with or without a name: its attributes and its nodes. -/
structure Subgraph where
  name : Option Text
  attributes : List Attribute
  nodes : List NodeStatement
  deriving DecidableEq, Repr

/-- The first line of a subgraph. -/
def Subgraph.opening (subgraph : Subgraph) : Text :=
  match subgraph.name with
  | none => "\x7b"
  | some name => "subgraph " ++ quoteName name ++ " \x7b"

/-- A statement of a graph. -/
inductive Statement
  | node (statement : NodeStatement)
  | edge (statement : EdgeStatement)
  | subgraph (subgraph : Subgraph)
  deriving DecidableEq, Repr

/-- A line one level further in. -/
def indent (line : Text) : Text :=
  "\t" ++ line

/-- The lines of a statement. -/
def Statement.lines : Statement → List Text
  | .node n => [n.text]
  | .edge e => [e.text]
  | .subgraph s =>
    s.opening :: (attributesText s.attributes :: s.nodes.map NodeStatement.text).map indent ++
      [Text.ofString "\x7d"]

/-- A directed graph: its name, the attributes of the graph and the defaults for nodes and edges,
and its statements. -/
structure Graph where
  name : Text
  attributes : List Attribute
  nodeDefaults : List Attribute
  edgeDefaults : List Attribute
  statements : List Statement
  deriving DecidableEq, Repr

namespace Graph

/-- The first line of a graph. -/
def opening (graph : Graph) : Text :=
  if graph.name.isEmpty then "digraph \x7b" else "digraph " ++ quoteName graph.name ++ " \x7b"

/-- The lines between the braces of a graph. -/
def body (graph : Graph) : List Text :=
  ("graph" ++ bracketed graph.attributes) ::
    ("node" ++ bracketed graph.nodeDefaults) ::
    ("edge" ++ bracketed graph.edgeDefaults) ::
    graph.statements.flatMap Statement.lines

/-- The graph as DOT text. -/
def text (graph : Graph) : Text :=
  (graph.opening :: graph.body.map indent ++ [Text.ofString "\x7d"]).flatMap (· ++ "\n")

/-- The attributes of a statement. -/
def attributesOf : Statement → List Attribute
  | .node n => n.attributes
  | .edge e => e.attributes
  | .subgraph s => s.attributes ++ s.nodes.flatMap NodeStatement.attributes

/-- Whether all values of a graph can be written. -/
def isWritable (graph : Graph) : Bool :=
  (graph.attributes ++ graph.statements.flatMap attributesOf).all (·.value.isWritable)

end Graph

end FlowDiagram.Dot
