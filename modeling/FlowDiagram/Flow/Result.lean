import FlowDiagram.Fact.Basic
import FlowDiagram.Files.Path

/-!
# Results

What came of a flow, and of a whole run: the drawn diagram or the error, the warnings, and the
numbers that describe a diagram.

## Main definitions

* `FlowResult`: what came of one flow.
* `RunSummary`: what came of a run, with its counts.
-/

namespace FlowDiagram

/-- How far a flow has come. -/
inductive FlowStatus
  | pending
  | running
  | completed
  | failed
  deriving DecidableEq, Repr

/-- The name of a status. -/
def FlowStatus.name : FlowStatus → String
  | .pending => "pending"
  | .running => "running"
  | .completed => "completed"
  | .failed => "failed"

/-- All statuses. -/
def FlowStatus.all : List FlowStatus := [.pending, .running, .completed, .failed]

/-- The status of a name. -/
def FlowStatus.ofName? (name : Text) : Option FlowStatus :=
  all.find? fun status => name = status.name

/-- The numbers that describe a diagram. Those of a diagram that was drawn here are counts; a result
from elsewhere may come with any integers. -/
structure FlowMetrics where
  nodes : Int := 0
  rawEdges : Int := 0
  renderedEdges : Int := 0
  backEdges : Int := 0
  cycleClusters : Int := 0
  iterationGroups : Int := 0
  missingProcessors : Int := 0
  deriving DecidableEq, Repr

/-- The numbers with their names, in order. -/
def FlowMetrics.entries (metrics : FlowMetrics) : List (String × Int) :=
  [("nodes", metrics.nodes), ("raw_edges", metrics.rawEdges),
    ("rendered_edges", metrics.renderedEdges), ("back_edges", metrics.backEdges),
    ("cycle_clusters", metrics.cycleClusters), ("iteration_groups", metrics.iterationGroups),
    ("missing_processors", metrics.missingProcessors)]

/-- What came of one flow. -/
structure FlowResult where
  flow : Name
  entry : Name
  status : FlowStatus := .pending
  dot : Option Text := none
  output : Option Path := none
  error : Option Text := none
  warnings : List Text := []
  metrics : FlowMetrics := {}
  deriving DecidableEq, Repr

namespace FlowResult

/-- Whether the diagram could be drawn. -/
def isSuccess (result : FlowResult) : Bool :=
  result.status = .completed

/-- Whether the diagram could not be drawn. -/
def isFailure (result : FlowResult) : Bool :=
  result.status = .failed

/-- The name of the files of a flow, without their endings. -/
def fileStem (result : FlowResult) : Text :=
  result.flow ++ "_flow"

end FlowResult

/-- The counts of a run, and the errors of its failed flows. -/
structure RunCounts where
  factFiles : Nat
  total : Nat
  succeeded : Nat
  failed : Nat
  warnings : Nat
  errors : List (Name × Option Text)
  deriving DecidableEq, Repr

/-- What came of a run. The warnings are about the facts; those about a flow stand with it. -/
structure RunSummary where
  factFiles : List Path := []
  results : List FlowResult := []
  warnings : List Text := []
  deriving DecidableEq, Repr

namespace RunSummary

/-- The flows that were drawn. -/
def succeeded (summary : RunSummary) : List FlowResult :=
  summary.results.filter (·.isSuccess)

/-- The flows that could not be drawn. -/
def failed (summary : RunSummary) : List FlowResult :=
  summary.results.filter (·.isFailure)

/-- Whether some flow could not be drawn. -/
def isFailed (summary : RunSummary) : Bool :=
  !summary.failed.isEmpty

/-- The summary with one more result. -/
def addResult (summary : RunSummary) (result : FlowResult) : RunSummary :=
  { summary with results := summary.results ++ [result] }

/-- The first result of a flow. -/
def result? (summary : RunSummary) (flow : Name) : Option FlowResult :=
  summary.results.find? (·.flow = flow)

/-- Records the error of a flow: in place of an earlier one of the same flow, or at the end. -/
def recordError (flow : Name) (error : Option Text) :
    List (Name × Option Text) → List (Name × Option Text)
  | [] => [(flow, error)]
  | entry :: entries =>
    if entry.1 = flow then (flow, error) :: entries else entry :: recordError flow error entries

/-- The errors of the failed flows, one per name. -/
def errors (summary : RunSummary) : List (Name × Option Text) :=
  summary.failed.foldl (fun errors result => recordError result.flow result.error errors) []

/-- The counts of a run. -/
def counts (summary : RunSummary) : RunCounts :=
  { factFiles := summary.factFiles.length
    total := summary.results.length
    succeeded := summary.succeeded.length
    failed := summary.failed.length
    warnings := summary.warnings.length
    errors := summary.errors }

end RunSummary

end FlowDiagram
