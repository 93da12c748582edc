import FlowDiagram.Diagram.NodeName
import FlowDiagram.Diagram.Options
import FlowDiagram.Fact.Index
import FlowDiagram.Graph.Edge

/-!
# Node styles

An activity is coloured by the first of a list of roles that it plays: the start of the flow comes
first, and the plain role, which every activity plays, comes last.

## Main definitions

* `Role`: the roles, with their colours and shapes.
* `Role.appliesTo`: whether a node plays a role.
* `StyledNode.ofName`: a node with its style.
-/

namespace FlowDiagram

/-- What is known about the flow whose nodes are styled. -/
structure StyleContext where
  entry : Name
  index : FactIndex
  missing : List Name
  options : DrawingOptions

/-- The roles of a node. -/
inductive Role
  | entry
  | highlight
  | manualTask
  | waiting
  | manual
  | abort
  | decision
  | finish
  | missing
  | plain
  deriving DecidableEq, Repr

namespace Role

/-- All roles, the deciding ones first. -/
def all : List Role :=
  [.entry, .highlight, .manualTask, .waiting, .manual, .abort, .decision, .finish, .missing, .plain]

/-- The name of a role. -/
def name : Role → String
  | .entry => "entry"
  | .highlight => "highlight"
  | .manualTask => "manual_task"
  | .waiting => "waiting"
  | .manual => "manual"
  | .abort => "abort"
  | .decision => "decision"
  | .finish => "end"
  | .missing => "missing"
  | .plain => "default"

/-- The fill colour of a role. -/
def colour : Role → String
  | .entry => "#90EE90"
  | .highlight => "#9370DB"
  | .manualTask => "#FFA500"
  | .waiting => "#FFD700"
  | .manual => "#FF6B6B"
  | .abort => "#FF4444"
  | .decision => "#4CAF50"
  | .finish => "#FFB6C1"
  | .missing => "#CCCCCC"
  | .plain => "#87CEEB"

/-- The shape of a role, if it is not a box. -/
def shape? : Role → Option String
  | .finish => some "circle"
  | .missing => some "diamond"
  | _ => none

/-- Whether a name holds one of some keywords. -/
def holdsKeyword (keywords : List Text) (name : Name) : Bool :=
  keywords.any (Text.occurs · name)

/-- Whether a node has a supertype with the highlighted text in its name. -/
def isHighlighted (context : StyleContext) (node : Name) : Bool :=
  match context.options.highlightSupertype with
  | none => false
  | some text => !text.isEmpty && context.index.hasSupertypeHolding text node

/-- Whether a node plays a role. -/
def appliesTo (context : StyleContext) (node : Name) : Role → Bool
  | .entry => node = context.entry
  | .highlight => isHighlighted context node
  | .manualTask => context.index.createsManualTask node
  | .waiting => holdsKeyword context.options.waitingKeywords node
  | .manual => holdsKeyword context.options.manualKeywords node
  | .abort => holdsKeyword context.options.abortKeywords node
  | .decision => holdsKeyword context.options.decisionKeywords node
  | .finish => node = endNode
  | .missing => context.missing.contains node
  | .plain => true

/-- The first role that a node plays; the plain one if it plays none. -/
def choose (roles : List Role) (context : StyleContext) (node : Name) : Role :=
  (roles.find? (appliesTo context node)).getD .plain

end Role

/-- The label of the end of a flow. -/
def endLabel : Text := "END"

/-- The sign of an activity that creates a manual task. -/
def manualTaskGlyph : Text := "📋"

/-- The mark of an activity without a processor. -/
def missingMark : Text := "?"

/-- The label of a node: its display name behind the signs that apply to it. -/
def nodeLabel (context : StyleContext) (node : Name) : Text :=
  if node = endNode then endLabel
  else
    let name := displayName context.options.nameTokens node
    let marked := if context.missing.contains node then missingMark ++ " " ++ name else name
    if context.index.createsManualTask node then manualTaskGlyph ++ " " ++ marked else marked

/-- A node with its label and its role. -/
structure StyledNode where
  name : Name
  label : Text
  role : Role
  deriving DecidableEq, Repr

namespace StyledNode

/-- The style of every node. -/
def style : String := "filled"

/-- A node styled by the first of some roles that it plays. -/
def ofName (roles : List Role) (context : StyleContext) (node : Name) : StyledNode :=
  { name := node, label := nodeLabel context node, role := Role.choose roles context node }

end StyledNode

end FlowDiagram
