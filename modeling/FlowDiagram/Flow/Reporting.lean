import FlowDiagram.Flow.Run
import FlowDiagram.Flow.Task
import FlowDiagram.Telemetry.Call

/-!
# Flows that telemetry takes notice of

Flows report what they do while they are generated, and telemetry may refuse to take notice of it.
A flow has failed if its own reports are refused. If telemetry does not even count the failure,
there are no results, and flows that have not begun by then are not generated any more.

Flows are generated one after the other, or by a pool if there are several workers and several
flows.

## Main definitions

* `flowTask`: the generation of one flow, with its reports.
* `allTask`: the generation of all flows, with their reports.
* `runTask`: a run, with its reports.
-/

namespace FlowDiagram

/-! ## One flow -/

/-- A result after a failure. What it holds already is kept. -/
def FlowResult.failedBy (result : FlowResult) (failure : DrawingFailure) : FlowResult :=
  { result with status := .failed, error := some failure.message }

/-- Reports the failure of a flow. -/
def failureTask (result : FlowResult) (failure : DrawingFailure) : Task FlowResult :=
  (Task.reports [.note (failure.note result.flow), .count "flows_failed_total"]).map
    fun _ => result.failedBy failure

/-- Reports a flow that was drawn. It has failed all the same if it cannot be counted. -/
def drawnTask (result : FlowResult) : Task FlowResult :=
  (Task.reports [.count "flows_generated_total"]).settle fun answer =>
    match answer with
    | .error e => failureTask result (.broken e.message)
    | .ok () => (Task.reports [.note (.generated result.flow result.metrics)]).map fun _ => result

/-- Generates the flow of one class and reports what it does. If the time of the drawing cannot be
recorded, the flow has failed for this reason, whatever has come of the drawing. -/
def flowTask (settings : FlowSettings) (index : FactIndex) (outages : Outages)
    (fact : ClassFact) : Task FlowResult :=
  let analysis := FlowAnalysis.ofEntry settings.drawing index fact.entry
  let flow := analysis.flow fact.name
  let drawing := drawFlow settings index outages flow
  let notes := analysis.notes settings.drawing ++
    if drawing.isOk then flow.drawnNotes else []
  let started : FlowResult := { flow := fact.name, entry := fact.entry, status := .running }
  (Task.reports (.span :: notes.map .note ++ Event.timer "flow_generation")).settle fun answer =>
    match answer, drawing with
    | .error e, drawing =>
      failureTask { started with dot := drawing.toOption } (.broken e.message)
    | .ok (), .error failure => failureTask started failure
    | .ok (), .ok dot => drawnTask (.ofDrawing fact.name fact.entry analysis (.ok dot))

/-! ## All flows -/

/-- Whether the flows of classes are generated by a pool. -/
def FlowSettings.pools (settings : FlowSettings) (facts : List ClassFact) : Bool :=
  1 < settings.workers && 1 < facts.length

/-- Generates the flows of classes, where the workers of a pool take the given turns. -/
def flowsTask (settings : FlowSettings) (index : FactIndex) (outages : Outages)
    (turns : List Turn) (facts : List ClassFact) : Task (List FlowResult) :=
  let tasks := facts.map (flowTask settings index outages)
  if settings.pools facts then Task.pool settings.workers turns (tasks.map fun task => { task })
  else Task.inOrder tasks

/-- The function that generates all flows, as it is called in the log. -/
def generateAllFunction : Text :=
  "behandling_flow.pipeline.orchestrator.FlowGenerator.generate_all"

/-- Generates the flows of the given classes, or of all entry points, and reports it. -/
def allTask (settings : FlowSettings) (index : FactIndex) (outages : Outages)
    (turns : List Turn) (entries : Option (List ClassFact)) : Task (List FlowResult) :=
  let selected := selectEntries settings index entries
  let notice := if selected.isEmpty then [Event.note .noEntryPoints] else []
  let generated := (Task.reports notice).andThen fun _ =>
    flowsTask settings index outages turns selected
  generated.settle fun answer =>
    match answer with
    | .error e =>
      .report (.note (.notExecuted generateAllFunction e.message)) fun _ => .done (.error e)
    | .ok results => (Task.reports generatedEvents).map fun _ => sortResults results

/-! ## Runs -/

/-- Runs and reports it: facts that cannot be loaded end the run, and so does a report that is
refused. -/
def runTask (settings : FlowSettings) (room : Nat) (disk : Disk) (outages : Outages)
    (turns : List Turn) (root : Path) : Task (Except LoadError RunSummary) :=
  let loading := loadIndex room disk root
  (Task.reports loading.events).andThen fun _ =>
    match loading.answer with
    | .error e => .done (.ok (.error e))
    | .ok loaded =>
      (allTask settings loaded.index outages turns none).andThen fun results =>
        let summary := RunSummary.ofResults loaded results
        (Task.reports [.note (.runComplete summary.counts)]).map fun _ => .ok summary

end FlowDiagram
