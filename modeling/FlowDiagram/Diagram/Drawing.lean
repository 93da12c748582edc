import FlowDiagram.Diagram.EdgeStyle
import FlowDiagram.Diagram.Legend
import FlowDiagram.Diagram.Structure
import FlowDiagram.Dot.Graph
import FlowDiagram.Graph.Walk

/-!
# Drawing a flow

A flow becomes a DOT graph: iteration groups and cycle clusters as subgraphs that hold their
members, the other nodes after them, then the edges, and a legend at the bottom if it is wanted.

## Main definitions

* `Flow`: all that a diagram shows.
* `Flow.graph`: the DOT graph of a flow.
* `Flow.draw`: its text, or the reason it cannot be drawn.
-/

namespace FlowDiagram

/-- All that a diagram shows: the name of the flow, its walk, its groups and its edges. -/
structure Flow where
  name : Name
  entry : Name
  walk : Walk
  clusters : List Cluster
  groups : List IterationGroup
  edges : List Edge

/-- Why a flow cannot be drawn. -/
inductive DrawingError
  | structural (error : StructureError)
  | unquotable
  deriving DecidableEq, Repr

/-- The wording of a reason. -/
def DrawingError.message : DrawingError → Text
  | .structural error => error.message
  | .unquotable => "label ends with an odd number of backslashes"

namespace Flow

open Dot (Attribute NodeStatement EdgeStatement Subgraph Statement)

/-- The nodes of a flow. -/
def nodes (flow : Flow) : List Name :=
  flow.walk.nodes

/-- The iteration groups that are shown. -/
def shownGroups (options : DrawingOptions) (flow : Flow) : List IterationGroup :=
  if options.showIterations then flow.groups else []

/-- What the styles of a flow's nodes depend on. -/
def context (options : DrawingOptions) (index : FactIndex) (flow : Flow) : StyleContext :=
  { entry := flow.entry, index, missing := flow.walk.missing, options }

/-- The statement of a node. -/
def nodeStatement (context : StyleContext) (name : Name) : NodeStatement :=
  let node := StyledNode.ofName Role.all context name
  { name
    attributes :=
      [.plain "label" (Dot.escapeLabel node.label), .plain "fillcolor" node.role.colour] ++
        (node.role.shape?.map fun shape => .plain "shape" shape).toList ++
        [.plain "style" StyledNode.style] }

/-- The attributes of a dashed box around a group. -/
def boxAttributes (background colour font label : Text) (face : Option Text) :
    List Attribute :=
  [.plain "bgcolor" background, .plain "color" colour, .plain "fontcolor" font] ++
    (face.map (Attribute.plain "fontname")).toList ++
    [.plain "fontsize" "12", .plain "label" (Dot.escapeLabel label), .plain "penwidth" "2.5",
      .plain "style" "rounded,dashed"]

/-- The label of an iteration group. -/
def iterationLabel (group : IterationGroup) : Text :=
  "Loop (triggered by " ++ group.trigger ++ ")"

/-- The label of a cycle cluster. -/
def cycleLabel : Text := "🔄 Waiting/Retry Loop"

/-- The subgraph of an iteration group. -/
def iterationBox (context : StyleContext) (group : IterationGroup) (number : Nat) : Subgraph :=
  { name := some s!"cluster_iteration_{number}"
    attributes :=
      boxAttributes "#F0FFF0" EdgeStyle.fanOutColour "#2E7D32" (iterationLabel group) none
    nodes := group.members.map (nodeStatement context) }

/-- The subgraph of a cycle cluster. -/
def cycleBox (context : StyleContext) (cluster : Cluster) (number : Nat) : Subgraph :=
  { name := some s!"cluster_cycle_{number}"
    attributes :=
      boxAttributes "#FFF5F5" EdgeStyle.cycleColour EdgeStyle.cycleColour cycleLabel
        (some "Arial Bold")
    nodes := cluster.map (nodeStatement context) }

/-- The statement of an edge. -/
def edgeStatement (edge : StyledEdge) : EdgeStatement :=
  { source := edge.source
    target := edge.target
    attributes :=
      (if edge.label.isEmpty then [] else [.plain "label" (Dot.escapeLabel edge.label)]) ++
        edge.style.attributes.map fun (key, value) => .plain key value }

/-- The subgraph of the legend. -/
def legendBox : Subgraph :=
  { name := none
    attributes := [.plain "rank" "sink"]
    nodes := [{
      name := Legend.node
      attributes :=
        [⟨"label", .html (Legend.html Legend.entries Legend.title)⟩, .plain "margin" "0",
          .plain "shape" "none"] }] }

/-- The members of the groups that are drawn. -/
def placed (options : DrawingOptions) (flow : Flow) : List Name :=
  (flow.shownGroups options).flatMap (·.members) ++ flow.clusters.flatten

/-- The nodes outside all groups. -/
def unplaced (options : DrawingOptions) (flow : Flow) : List Name :=
  flow.nodes.filter (!(flow.placed options).contains ·)

/-- The statements of a flow's graph, in order. -/
def statements (options : DrawingOptions) (index : FactIndex) (flow : Flow) : List Statement :=
  let context := flow.context options index
  (flow.shownGroups options).zipIdx.map
      (fun (group, number) => .subgraph (iterationBox context group number)) ++
    flow.clusters.zipIdx.map
      (fun (cluster, number) => .subgraph (cycleBox context cluster number)) ++
    (flow.unplaced options).map (fun name => .node (nodeStatement context name)) ++
    flow.edges.map
      (fun edge => .edge (edgeStatement (StyledEdge.ofEdge options flow.walk.missing edge))) ++
    if options.showLegend then [.subgraph legendBox] else []

/-- The title of a flow's diagram. -/
def diagramTitle (flow : Flow) : Text :=
  flow.name ++ " Flow"

/-- The DOT graph of a flow. -/
def graph (options : DrawingOptions) (index : FactIndex) (flow : Flow) : Dot.Graph :=
  { name := flow.name
    attributes :=
      [.plain "fontsize" "16", .plain "label" (Dot.escapeLabel flow.diagramTitle),
        .plain "labelloc" "t", .plain "rankdir" "TB", .plain "splines" options.routing.splines]
    nodeDefaults := [.plain "fontname" "Arial", .plain "shape" "box", .plain "style" "rounded"]
    edgeDefaults := [.plain "fontname" "Arial", .plain "fontsize" "10"]
    statements := flow.statements options index }

/-- The DOT text of a flow, or the reason it cannot be drawn. -/
def draw (options : DrawingOptions) (index : FactIndex) (flow : Flow) :
    Except DrawingError Text :=
  match checkStructure flow.nodes flow.clusters (flow.shownGroups options) flow.edges with
  | .error e => .error (.structural e)
  | .ok () =>
    let graph := flow.graph options index
    if graph.isWritable then .ok graph.text else .error .unquotable

end Flow

end FlowDiagram
