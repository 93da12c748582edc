import FlowDiagram.Command.Outcome
import FlowDiagram.Json.Writer

/-!
# Reports of runs

How a run is reported: line by line for people, or as JSON for programs.

## Main definitions

* `RunSummary.remarks`: the report as lines.
* `RunSummary.toJson`: the report as JSON.
-/

namespace FlowDiagram

/-- The numbers of a diagram as JSON. -/
def FlowMetrics.toJson (metrics : FlowMetrics) : Json :=
  .ofMembers (metrics.entries.map fun (name, value) => (name, .integer value))

/-- The counts of a run as JSON. -/
def RunCounts.toJson (counts : RunCounts) : Json :=
  .ofMembers [("fact_files", .ofNat counts.factFiles), ("flows_total", .ofNat counts.total),
    ("flows_succeeded", .ofNat counts.succeeded), ("flows_failed", .ofNat counts.failed),
    ("warning_count", .ofNat counts.warnings),
    ("errors", .object (counts.errors.map fun (flow, error) => (flow, .ofText? error)))]

namespace FlowResult

/-- A path that may be missing, as it is shown. -/
def outputText (result : FlowResult) : Text :=
  (result.output.map Path.text).getD "None"

/-- The lines about a flow: where its diagram is, and what went wrong. -/
def remarks (result : FlowResult) : List Remark :=
  if result.isSuccess then
    .out ("✓ " ++ result.flow ++ ": " ++ result.outputText) ::
      result.warnings.map fun warning => .err ("  ! " ++ warning)
  else [.err ("✗ " ++ result.flow ++ ": " ++ result.error.getD "None")]

/-- A flow in the report of a run. -/
def reportJson (result : FlowResult) : Json :=
  .ofMembers [("name", .text result.flow), ("entry", .text result.entry),
    ("status", .text result.status.name), ("output", .ofText? (result.output.map Path.text)),
    ("error", .ofText? result.error), ("warnings", .ofTexts result.warnings),
    ("metrics", result.metrics.toJson)]

end FlowResult

namespace RunSummary

/-- The lines about a run: its flows, the warnings, and the counts. -/
def remarks (summary : RunSummary) : List Remark :=
  let counts := summary.counts
  summary.results.flatMap FlowResult.remarks ++
    summary.warnings.map (fun warning => .err ("Warning: " ++ warning)) ++
    [.err s!"\n--- {counts.succeeded}/{counts.total} flows generated ---"]

/-- The report of a run. -/
def toJson (summary : RunSummary) : Json :=
  .ofMembers [("summary", summary.counts.toJson), ("warnings", .ofTexts summary.warnings),
    ("flows", .list (summary.results.map FlowResult.reportJson))]

end RunSummary

end FlowDiagram
