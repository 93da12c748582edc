import FlowDiagram.Flow.Result
import FlowDiagram.Json.Value
import FlowDiagram.Telemetry.Level
import FlowDiagram.Text.Quoted

/-!
# Log messages

What a run says about its progress. A message may tell how long something took; that time is put
in when the message is written.

## Main definitions

* `Note`: everything that is worth a log message.
* `Note.level`, `Note.message`: the level and the text of a message.
* `Note.isRecord`: whether it is handed over to the log, or written to it.
-/

namespace FlowDiagram

/-- What a log message is about. -/
inductive Note
  /-- Spans are recorded from now on. -/
  | tracingReady
  /-- Metrics are recorded from now on. -/
  | metricsReady
  /-- Telemetry has started. -/
  | telemetryReady (serviceName logLevel : Text)
  /-- A fact file was read. -/
  | fileLoaded (classes processors : Nat) (path : Path)
  /-- A folder holds no fact file. -/
  | noFactFiles (root : Path)
  /-- All fact files were read. -/
  | factsLoaded (classes processors files : Nat)
  /-- Two facts claim one key. -/
  | duplicate (warning : Text)
  /-- The index is complete. -/
  | indexed (classes processors : Nat)
  /-- A walk has ended. -/
  | traversed (entry : Name) (visited edges missing : Nat)
  /-- A flow has cycles. -/
  | cyclesFound (entry : Name) (backEdges clusters : Nat)
  /-- Parallel edges were consolidated. -/
  | consolidated (edges : Nat)
  /-- The nodes of a flow have their styles. -/
  | styled (entry : Name) (nodes : Nat)
  /-- The text of a diagram is complete. -/
  | drawn (flow : Name) (nodes edges clusters : Nat)
  /-- A timer was stopped. -/
  | timed (name : Text)
  /-- A flow is complete. -/
  | generated (flow : Name) (metrics : FlowMetrics)
  /-- A flow does not fit together. -/
  | aborted (flow : Name) (message : Text)
  /-- A flow could not be drawn for another reason. -/
  | failed (flow : Name) (message : Text)
  /-- No class starts a flow. -/
  | noEntryPoints
  /-- A function has returned. -/
  | executed (function : Text) (level : Level) (isTimed : Bool) (result : Option Text)
  /-- A function has failed. -/
  | notExecuted (function message : Text)
  /-- A run is complete. -/
  | runComplete (counts : RunCounts)
  /-- The file of a flow was written. -/
  | wrote (path : Path)
  /-- The image of a flow could not be made. -/
  | notRendered (flow : Name) (message : Text)
  /-- Files could not be written. -/
  | notWritten
  /-- A metric does not take a negative amount. -/
  | negativeAmount (operation kind : String) (metric : Text)
  /-- A metric does not take an amount that is not finite. -/
  | infiniteAmount (operation kind : String) (metric amount : Text)
  /-- An attribute of a span has no name. -/
  | nameless
  /-- Another attribute, or something inside one, has no name. -/
  | namelessInside
  /-- What should be attributes are none. -/
  | notAttributes (kind : String)
  /-- A span has as many attributes as it keeps, and one more comes. -/
  | oldestDropped
  /-- A message of any kind. -/
  | other (level : Level) (message : Text)

namespace Note

/-- The level of a message. -/
def level : Note → Level
  | .factsLoaded .. | .indexed .. | .generated .. | .runComplete .. | .wrote .. => .info
  | .noFactFiles .. | .duplicate .. | .noEntryPoints | .notRendered .. | .negativeAmount ..
  | .infiniteAmount .. | .nameless | .namelessInside | .notAttributes .. | .oldestDropped =>
    .warning
  | .aborted .. | .failed .. | .notExecuted .. | .notWritten => .error
  | .executed _ level _ _ => level
  | .other level _ => level
  | _ => .debug

/-- Whether a message is a record, which is handed over to the log. Telemetry itself, timers and
calls that are watched write to the log instead. -/
def isRecord : Note → Bool
  | .tracingReady | .metricsReady | .telemetryReady .. | .timed .. | .executed ..
  | .notExecuted .. => false
  | _ => true

/-- The numbers of a diagram as they are logged. -/
def metricsText (metrics : FlowMetrics) : String :=
  let entries := metrics.entries.map fun (name, value) => s!"{name}={value}"
  "FlowMetrics(" ++ ", ".intercalate entries ++ ")"

/-- Entries with quoted keys between braces. -/
def braced (entries : List (Text × Text)) : Text :=
  let members := entries.map fun (key, value) => Text.quoted key ++ ": " ++ value
  "\x7b" ++ Text.joined ", " members ++ "\x7d"

/-- An error as it is logged. -/
def errorText (error : Option Text) : Text :=
  (error.map Text.quoted).getD "None"

/-- The counts of a run as they are logged. -/
def countsText (counts : RunCounts) : Text :=
  braced [("fact_files", .ofNat counts.factFiles), ("flows_total", .ofNat counts.total),
    ("flows_succeeded", .ofNat counts.succeeded), ("flows_failed", .ofNat counts.failed),
    ("warning_count", .ofNat counts.warnings),
    ("errors", braced (counts.errors.map fun (flow, error) => (flow, errorText error)))]

/-- The text of a message; `elapsed` is the time that it tells, without its unit. -/
def message (elapsed : String) : Note → Text
  | .tracingReady => "OpenTelemetry tracing initialized"
  | .metricsReady => "OpenTelemetry metrics initialized"
  | .telemetryReady serviceName logLevel =>
    "Observability initialized: service=" ++ serviceName ++ ", log_level=" ++ logLevel
  | .fileLoaded classes processors path =>
    s!"Loaded {classes} classes and {processors} processors from " ++ path.text
  | .noFactFiles root => "No *.facts.json files found under " ++ root.text
  | .factsLoaded classes processors files =>
    s!"Loaded {classes} classes and {processors} processors from {files} fact files"
  | .duplicate warning => warning
  | .indexed classes processors => s!"Indexed {classes} classes and {processors} processors"
  | .traversed entry visited edges missing =>
    "Traversed " ++ entry ++
      s!": {visited} activities, {edges} edges, {missing} without processor"
  | .cyclesFound entry backEdges clusters =>
    s!"Detected {backEdges} back-edges in {clusters} clusters from " ++ entry
  | .consolidated edges => s!"Consolidated edges into {edges} rendered edges"
  | .styled entry nodes => s!"Styled {nodes} nodes for " ++ entry
  | .drawn flow nodes edges clusters =>
    "Generated DOT for " ++ flow ++
      s!": {nodes} nodes, {edges} edges, {clusters} cycle clusters"
  | .timed name => "Timer '" ++ name ++ "': " ++ elapsed ++ "s"
  | .generated flow metrics => "Generated flow " ++ flow ++ ": " ++ metricsText metrics
  | .aborted flow message => "Flow " ++ flow ++ " aborted: " ++ message
  | .failed flow message => "Flow " ++ flow ++ " failed: " ++ message
  | .noEntryPoints => "No entry points found"
  | .executed function _ isTimed result =>
    let time := if isTimed then s!" in {elapsed}ms" else ""
    let returned := (result.map fun result : Text => " -> " ++ result).getD []
    "Function executed: " ++ function ++ time ++ returned
  | .notExecuted function message => "Function failed: " ++ function ++ ": " ++ message
  | .runComplete counts => "Run complete: " ++ countsText counts
  | .wrote path => "Wrote " ++ path.text
  | .notRendered flow message => flow ++ ": " ++ message
  | .notWritten => "Writing output failed"
  | .negativeAmount operation kind metric =>
    s!"{operation} amount must be non-negative on {kind} " ++ metric ++ "."
  | .infiniteAmount operation kind metric amount =>
    s!"{operation} amount " ++ amount ++ s!" is not finite on {kind} " ++ metric ++
      ", ignoring measurement."
  | .nameless =>
    "invalid key \x60\x60. must be non-empty string. Dropping key from attributes."
  | .namelessInside =>
    "invalid attribute key \x60\x60. must be non-empty string. Dropping key from attributes."
  | .notAttributes kind =>
    s!"Invalid type '<class '{kind}'>' for attributes. Expected a Mapping or None."
  | .oldestDropped =>
    "Attributes dict is full. Dropping the oldest key-value pair from attributes to make space " ++
      "for the new key-value pair."
  | .other _ message => message

end Note

/-- What a run does that telemetry takes notice of. -/
inductive Event
  /-- A message is logged. -/
  | note (note : Note)
  /-- A span is opened. -/
  | span
  /-- One more of something is counted. -/
  | count (metric : Text)
  /-- The time that something took is recorded. -/
  | duration (name : Text)

/-- The end of a timer: a message, and its time as a metric. -/
def Event.timer (name : Text) : List Event :=
  [.note (.timed name), .duration name]

end FlowDiagram
