import FlowDiagram.Diagram.Drawing
import FlowDiagram.Flow.Settings
import FlowDiagram.Graph.Consolidation
import FlowDiagram.Telemetry.Note

/-!
# Generating flows

A class that starts a flow is turned into a diagram: the flow is walked, its cycles and iteration
groups are found, its parallel edges are consolidated, and the result is drawn. A flow that cannot
be drawn is recorded as failed and does not keep the others from being drawn.

## Main definitions

* `FlowAnalysis.ofEntry`: all that is found out about a flow before it is drawn.
* `generateFlow`: the result of one flow.
* `generateAll`: the results of all flows, sorted by name.
-/

namespace FlowDiagram

/-- All that is found out about a flow before it is drawn: its walk, its cycles, its iteration
groups, and the edges to draw. -/
structure FlowAnalysis where
  walk : Walk
  cycles : CycleAnalysis
  groups : List IterationGroup
  edges : List Edge
  deriving DecidableEq, Repr

/-- How the edges of a flow are consolidated. -/
def DrawingOptions.consolidation (options : DrawingOptions) : ConsolidationOptions :=
  { showConditions := options.showConditions
    summaryThreshold := options.summaryThreshold
    boldThreshold := options.boldThreshold
    exampleMaxLength := options.exampleMaxLength }

/-- The edges to draw: consolidated if that is wanted, with the back edges marked in any case. -/
def drawnEdges (options : DrawingOptions) (backEdges : List (Name × Name)) (edges : List Edge) :
    List Edge :=
  if options.deduplicate then consolidate options.consolidation backEdges edges
  else markBackEdges backEdges edges

namespace FlowAnalysis

/-- The analysis of the flow that starts from an activity. -/
def ofEntry (options : DrawingOptions) (index : FactIndex) (entry : Name) : FlowAnalysis :=
  let walk := Walk.along index options entry
  let cycles := CycleAnalysis.ofEdges entry walk.edges
  { walk
    cycles
    groups :=
      if options.showIterations then IterationGroup.ofEdges walk.edges cycles.clusters else []
    edges := drawnEdges options cycles.backEdges walk.edges }

section

variable (options : DrawingOptions) (index : FactIndex) (entry : Name)

/-! The parts of an analysis are what the stages come to, one after the other. -/

@[simp]
theorem walk_ofEntry : (ofEntry options index entry).walk = Walk.along index options entry :=
  rfl

@[simp]
theorem cycles_ofEntry :
    (ofEntry options index entry).cycles =
      CycleAnalysis.ofEdges entry (Walk.along index options entry).edges :=
  rfl

theorem groups_ofEntry :
    (ofEntry options index entry).groups =
      if options.showIterations then
        IterationGroup.ofEdges (Walk.along index options entry).edges
          (CycleAnalysis.ofEdges entry (Walk.along index options entry).edges).clusters
      else [] :=
  rfl

theorem edges_ofEntry :
    (ofEntry options index entry).edges =
      drawnEdges options
        (CycleAnalysis.ofEdges entry (Walk.along index options entry).edges).backEdges
        (Walk.along index options entry).edges :=
  rfl

end

/-- The numbers that describe the diagram. -/
def metrics (analysis : FlowAnalysis) : FlowMetrics :=
  { nodes := analysis.walk.nodes.length
    rawEdges := analysis.walk.edges.length
    renderedEdges := analysis.edges.length
    backEdges := analysis.cycles.backEdges.length
    cycleClusters := analysis.cycles.clusters.length
    iterationGroups := analysis.groups.length
    missingProcessors := analysis.walk.missing.length }

/-- The flow to draw, under the name of its class. -/
def flow (analysis : FlowAnalysis) (name : Name) : Flow :=
  { name
    entry := analysis.walk.entry
    walk := analysis.walk
    clusters := analysis.cycles.clusters
    groups := analysis.groups
    edges := analysis.edges }

/-- The warnings about activities without a processor. -/
def warnings (analysis : FlowAnalysis) : List Text :=
  analysis.walk.missing.map fun name => "No processor found for '" ++ name ++ "'"

/-- The message about a walk. -/
def walkNote (walk : Walk) : Note :=
  .traversed walk.entry walk.visited.length walk.edges.length walk.missing.length

/-- The messages about an analysis. -/
def notes (options : DrawingOptions) (analysis : FlowAnalysis) : List Note :=
  [walkNote analysis.walk] ++
    (if analysis.cycles.hasCycles then
      [.cyclesFound analysis.walk.entry analysis.cycles.backEdges.length
        analysis.cycles.clusters.length]
    else []) ++
    if options.deduplicate then [.consolidated analysis.edges.length] else []

end FlowAnalysis

/-- The messages about a diagram that could be drawn. -/
def Flow.drawnNotes (flow : Flow) : List Note :=
  [.styled flow.entry flow.nodes.length,
    .drawn flow.name flow.nodes.length flow.edges.length flow.clusters.length]

/-- Why a diagram is missing: the flow does not fit together, or drawing it went wrong. -/
inductive DrawingFailure
  | unfit (message : Text)
  | broken (message : Text)
  deriving DecidableEq, Repr

namespace DrawingFailure

/-- The wording of a failure. -/
def message : DrawingFailure → Text
  | .unfit message => message
  | .broken message => message

/-- The failure that an error means. -/
def ofError : DrawingError → DrawingFailure
  | .structural e => .unfit e.message
  | .unquotable => .broken DrawingError.unquotable.message

/-- The message about a failure. -/
def note (flow : Name) : DrawingFailure → Note
  | .unfit message => .aborted flow message
  | .broken message => .failed flow message

end DrawingFailure

/-- Failures that strike the drawing of some flows from outside. -/
abbrev Outages := List (Name × DrawingFailure)

/-- Draws a flow, unless an outage strikes it. -/
def drawFlow (settings : FlowSettings) (index : FactIndex) (outages : Outages) (flow : Flow) :
    Except DrawingFailure Text :=
  match outages.lookup flow.name with
  | some failure => .error failure
  | none => (flow.draw settings.drawing index).mapError DrawingFailure.ofError

/-- The result of a flow whose drawing has ended. -/
def FlowResult.ofDrawing (flow entry : Name) (analysis : FlowAnalysis) :
    Except DrawingFailure Text → FlowResult
  | .ok dot =>
    { flow, entry, status := .completed, dot := some dot, warnings := analysis.warnings,
      metrics := analysis.metrics }
  | .error failure => { flow, entry, status := .failed, error := some failure.message }

/-- What is reported about a flow whose drawing has ended. -/
def endEvents (flow : Name) (analysis : FlowAnalysis) :
    Except DrawingFailure Text → List Event
  | .ok _ => [.count "flows_generated_total", .note (.generated flow analysis.metrics)]
  | .error failure => [.note (failure.note flow), .count "flows_failed_total"]

/-- Generates the flow of one class. -/
def generateFlow (settings : FlowSettings) (index : FactIndex) (outages : Outages)
    (fact : ClassFact) : FlowResult × List Event :=
  let analysis := FlowAnalysis.ofEntry settings.drawing index fact.entry
  let flow := analysis.flow fact.name
  let drawing := drawFlow settings index outages flow
  let notes := analysis.notes settings.drawing ++
    if drawing.isOk then flow.drawnNotes else []
  (FlowResult.ofDrawing fact.name fact.entry analysis drawing,
    .span :: notes.map .note ++ Event.timer "flow_generation" ++
      endEvents fact.name analysis drawing)

/-- Sorts results by the names of their flows; results of one name keep their order. -/
def sortResults (results : List FlowResult) : List FlowResult :=
  results.mergeSort fun a b => decide (a.flow ≤ b.flow)

/-- The events at the end of generating all flows. -/
def generatedEvents : List Event :=
  [.duration "generate_all",
    .note (.executed "behandling_flow.pipeline.orchestrator.FlowGenerator.generate_all"
      .debug true none)]

/-- The classes whose flows are generated: the given ones, or all entry points that the settings
ask for. -/
def selectEntries (settings : FlowSettings) (index : FactIndex)
    (entries : Option (List ClassFact)) : List ClassFact :=
  entries.getD (index.entryPoints settings.entrySupertype)

/-- Generates the flows of the given classes, or of all entry points. The results are sorted by
name; the events are in the order of the classes, unless a pool generates the flows. -/
def generateAll (settings : FlowSettings) (index : FactIndex) (outages : Outages)
    (entries : Option (List ClassFact)) : List FlowResult × List Event :=
  let selected := selectEntries settings index entries
  let generated := selected.map (generateFlow settings index outages)
  let notice := if selected.isEmpty then [Event.note .noEntryPoints] else []
  (sortResults (generated.map Prod.fst),
    notice ++ generated.flatMap Prod.snd ++ generatedEvents)

end FlowDiagram
