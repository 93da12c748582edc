import FlowDiagram.Json.Shown
import FlowDiagram.Telemetry.Log
import FlowDiagram.Telemetry.Metric

/-!
# Telemetry

Messages, spans and metrics of a process. Telemetry starts when it is configured, or by itself with
default settings when it is first used. Configuring it again changes only which messages are shown.

Before the start there are two other logs. One is open from the beginning, for messages that are
written; it is closed when telemetry is configured, also if that fails. The other prints the texts
of records that warn, as long as nobody else handles them.

Durations are not measured here; they count as nothing, and only their number matters. None of them
is negative, as the clock is not set back: a histogram would not take a negative one.

## Main definitions

* `Telemetry`: telemetry that has started.
* `EarlyLog`: the logs before the start.
* `TelemetryState`: the telemetry of a process.
* `Telemetry.configure`: configures telemetry.
* `Telemetry.observe`: takes notice of events.
-/

namespace FlowDiagram

/-- What can be chosen about telemetry. -/
structure TelemetrySettings where
  serviceName : Text := "behandling-flow"
  logLevel : LevelChoice := .standard .info
  jsonLogs : Bool := false
  tracing : Bool := true
  metrics : Bool := true
  deriving DecidableEq, Repr

/-- Why telemetry refuses something. -/
inductive TelemetryError
  | unknownLevel (name : Text)
  | invalidMetricName (name : Text)
  | spoiledMetric (identity : MetricIdentity)
  | notNumber (kind : String)
  | amountTooLarge
  | notAttributes (kind : String)
  | unreported (fault : Metric.ReportFault)
  deriving DecidableEq, Repr

/-- The wording of a refusal. -/
def TelemetryError.message : TelemetryError → Text
  | .unknownLevel name => "Level '" ++ name ++ "' does not exist"
  | .invalidMetricName name =>
    s!"Expected ASCII string of maximum length {Metric.longestName} characters but got " ++ name
  | .spoiledMetric identity => Text.quoted identity.text
  | .notNumber kind => "must be real number, not " ++ kind
  | .amountTooLarge => "int too large to convert to float"
  | .notAttributes kind => s!"'{kind}' object has no attribute 'items'"
  | .unreported .infiniteSum => "cannot convert float infinity to integer"
  | .unreported (.unordered ⟨left, right⟩) =>
    s!"'<' not supported between instances of '{left}' and '{right}'"

/-- Telemetry that has started: its settings, the level from which on messages are shown (if there
is a log at all), the metric that every name as it is written stands for, the metrics whose first
name could not be used, and the metrics with amounts. -/
structure Telemetry where
  settings : TelemetrySettings
  threshold : Option Level
  names : List (Text × MetricIdentity) := []
  spoiled : List MetricIdentity := []
  metrics : List Metric := []

/-- The logs before the start: whether the one for messages that are written is open, and whether
records are printed. -/
structure EarlyLog where
  isOpen : Bool := true
  printsRecords : Bool := true
  deriving DecidableEq, Repr

namespace EarlyLog

/-- The log for messages that are written is closed. -/
def closed (log : EarlyLog) : EarlyLog :=
  { log with isOpen := false }

/-- The message as it is shown before the start. All messages are written from the level `DEBUG` on,
and records are printed from the level `WARNING` on. -/
def shown (log : EarlyLog) (note : Note) : List LogLine :=
  if note.isRecord then
    if log.printsRecords && decide (Level.warning.severity ≤ note.level.severity) then
      [⟨note.level, note, .bare⟩]
    else []
  else if log.isOpen && decide (Level.debug.severity ≤ note.level.severity) then
    [⟨note.level, note, .dated⟩]
  else []

end EarlyLog

/-- The telemetry of a process: it has not started yet, or it has. -/
inductive TelemetryState
  | unstarted (log : EarlyLog)
  | started (telemetry : Telemetry)

/-- Telemetry, once it has started. -/
def TelemetryState.telemetry? : TelemetryState → Option Telemetry
  | .unstarted _ => none
  | .started telemetry => some telemetry

/-- What an operation leaves behind: the state of telemetry, the messages that were shown, and its
answer. -/
structure Observed (α : Type) where
  state : TelemetryState
  lines : List LogLine
  answer : Except TelemetryError α

namespace Telemetry

/-- The message as it is shown, if its level reaches the threshold. -/
def shown (telemetry : Telemetry) (note : Note) : List LogLine :=
  match telemetry.threshold with
  | none => []
  | some threshold =>
    if threshold.severity ≤ note.level.severity then
      let format := if telemetry.settings.jsonLogs then LogFormat.records else .lines
      [⟨note.level, note, format⟩]
    else []

/-- What telemetry says about its own start. -/
def startNotes (settings : TelemetrySettings) : List Note :=
  (if settings.tracing then [.tracingReady] else []) ++
    (if settings.metrics then [.metricsReady] else []) ++
    [.telemetryReady settings.serviceName settings.logLevel.text]

/-- Starts telemetry. -/
def start (settings : TelemetrySettings) (threshold : Level) : Telemetry × List LogLine :=
  let telemetry : Telemetry := { settings, threshold := some threshold }
  (telemetry, (startNotes settings).flatMap telemetry.shown)

/-- The telemetry of a process, started with default settings if need be. -/
def current : TelemetryState → Telemetry × List LogLine
  | .started telemetry => (telemetry, [])
  | .unstarted _ => start {} .info

/-- Shows other messages from now on. The old log is closed before the level is looked up, so an
unknown level leaves no log. -/
def reconfigure (telemetry : Telemetry) (settings : TelemetrySettings) : Observed Telemetry :=
  let threshold := settings.logLevel.level?
  let telemetry := { telemetry with
    settings := { telemetry.settings with
      logLevel := settings.logLevel, jsonLogs := settings.jsonLogs }
    threshold }
  match threshold with
  | some _ => ⟨.started telemetry, [], .ok telemetry⟩
  | none => ⟨.started telemetry, [], .error (.unknownLevel settings.logLevel.name)⟩

/-- Configures telemetry: starts it, or changes which messages are shown. The log that is open
before the start is closed before the level is looked up, too. -/
def configure (state : TelemetryState) (settings : Option TelemetrySettings) :
    Observed Telemetry :=
  match state, settings with
  | .started telemetry, none => ⟨state, [], .ok telemetry⟩
  | .started telemetry, some settings => telemetry.reconfigure settings
  | .unstarted log, settings =>
    let settings := settings.getD {}
    match settings.logLevel.level? with
    | none => ⟨.unstarted log.closed, [], .error (.unknownLevel settings.logLevel.name)⟩
    | some threshold =>
      let (telemetry, lines) := start settings threshold
      ⟨.started telemetry, lines, .ok telemetry⟩

/-- Logs a message. -/
def log (state : TelemetryState) (note : Note) : List LogLine :=
  match state with
  | .unstarted log => log.shown note
  | .started telemetry => telemetry.shown note

/-- The metric that a name stands for. A new name finds the metric of another spelling; otherwise it
starts a metric, if it can be used. If it cannot, the metric is spoiled for every spelling that is
yet to come. -/
def metricOf (telemetry : Telemetry) (name : Text) (isWhole : Bool) :
    Telemetry × Except TelemetryError MetricIdentity :=
  match telemetry.names.lookup name with
  | some identity => (telemetry, .ok identity)
  | none =>
    let identity := MetricIdentity.ofFirst name isWhole
    let isStarted := telemetry.names.any (·.2 = identity)
    if telemetry.spoiled.contains identity then (telemetry, .error (.spoiledMetric identity))
    else if isStarted || Metric.isName name then
      ({ telemetry with names := telemetry.names ++ [(name, identity)] }, .ok identity)
    else
      ({ telemetry with spoiled := telemetry.spoiled ++ [identity] },
        .error (.invalidMetricName name))

/-- A metric without amounts. -/
def emptyMetric (identity : MetricIdentity) : Metric :=
  { name := identity.name, kind := identity.kind, points := [] }

/-- The metric of an identity, which may have no amounts yet. -/
def metricFor (telemetry : Telemetry) (identity : MetricIdentity) : Metric :=
  (telemetry.metrics.find? (·.identity = identity)).getD (emptyMetric identity)

/-- Puts a metric in the place of the one with its identity, or at the end. -/
def putMetric (metric : Metric) : List Metric → List Metric
  | [] => [metric]
  | other :: others =>
    if other.identity = metric.identity then metric :: others else other :: putMetric metric others

/-- The warning about an amount that a metric does not take: one that is not finite, or a negative
one. -/
def refusal? (identity : MetricIdentity) (amount : Amount) : Option Note :=
  let kind := identity.kind
  if !amount.isFinite then
    some (.infiniteAmount kind.operation kind.typeName identity.name amount.toJson.shownAtom)
  else if amount.isNegative then
    some (.negativeAmount kind.operation kind.typeName identity.name)
  else none

/-- The attributes that can be used of those given, and a warning for each that is dropped. A value
that is none of that has no attributes and is warned about. -/
def usable (given : Except String Attributes) : Attributes × List Note :=
  match given with
  | .error kind => ([], [.notAttributes kind])
  | .ok attributes =>
    let (kept, dropped) := attributes.cleaned
    (kept, List.replicate dropped .namelessInside)

/-- Adds an amount to a metric. Amounts beyond the range of binary fractions are an error, those
that are refused are warned about, and attributes that cannot be used are dropped with warnings. -/
def recordAmount (telemetry : Telemetry) (identity : MetricIdentity) (amount : Amount)
    (given : Except String Attributes) : Observed Unit :=
  if amount.isTooLarge then ⟨.started telemetry, [], .error .amountTooLarge⟩
  else
    match refusal? identity amount with
    | some note => ⟨.started telemetry, telemetry.shown note, .ok ()⟩
    | none =>
      let (attributes, notes) := usable given
      let lines := notes.flatMap telemetry.shown
      let metric := telemetry.metricFor identity
      if metric.canRecord attributes amount then
        let metrics := putMetric (metric.record attributes amount) telemetry.metrics
        ⟨.started { telemetry with metrics }, lines, .ok ()⟩
      else ⟨.started telemetry, lines, .error .amountTooLarge⟩

/-- Does something with the metric of a name, if metrics are wanted. -/
def withMetric (state : TelemetryState) (name : Text) (isWhole : Bool)
    (action : Telemetry → MetricIdentity → Observed Unit) : Observed Unit :=
  let (telemetry, lines) := current state
  if !telemetry.settings.metrics then ⟨.started telemetry, lines, .ok ()⟩
  else
    match telemetry.metricOf name isWhole with
    | (telemetry, .error e) => ⟨.started telemetry, lines, .error e⟩
    | (telemetry, .ok identity) =>
      let done := action telemetry identity
      { done with lines := lines ++ done.lines }

/-- Records an amount under a name. -/
def record (state : TelemetryState) (name : Text) (amount : Amount)
    (given : Except String Attributes) : Observed Unit :=
  withMetric state name amount.isWhole fun telemetry identity =>
    telemetry.recordAmount identity amount given

/-- Records a value under a name. A value that is no number is an error. -/
def recordValue (state : TelemetryState) (name : Text) (value : Json)
    (given : Except String Attributes) : Observed Unit :=
  match Amount.ofJson? value with
  | some amount => record state name amount given
  | none =>
    withMetric state name false fun telemetry _ =>
      ⟨.started telemetry, [], .error (.notNumber value.kindName)⟩

/-- The warning about something that got lost when attributes were put on a span. -/
def lossNote : Attributes.Loss → Note
  | .nameless => .nameless
  | .namelessInside => .namelessInside
  | .oldest => .oldestDropped

/-- Opens and closes a span: it has its name and attributes if spans are wanted. A value that holds
no attributes is an error then. -/
def span (state : TelemetryState) (name : Text) (given : Except String Attributes) :
    Observed (Option (Text × Attributes)) :=
  let (telemetry, lines) := current state
  if !telemetry.settings.tracing then ⟨.started telemetry, lines, .ok none⟩
  else
    match given with
    | .error kind => ⟨.started telemetry, lines, .error (.notAttributes kind)⟩
    | .ok attributes =>
      let (kept, losses) := attributes.onSpan
      ⟨.started telemetry, lines ++ losses.flatMap (telemetry.shown ∘ lossNote),
        .ok (some (name, kept))⟩

/-- The metric that the durations of something are recorded under. -/
def durationMetric (name : Text) : Text :=
  name ++ "_duration"

/-- Takes notice of one event. -/
def observeOne (state : TelemetryState) : Event → Observed Unit
  | .note note => ⟨state, log state note, .ok ()⟩
  | .span =>
    let (telemetry, lines) := current state
    ⟨.started telemetry, lines, .ok ()⟩
  | .count name => record state name (.whole 1) (.ok [])
  | .duration name => record state (durationMetric name) (.fraction 0) (.ok [])

/-- Takes notice of events, one after the other, up to one that is refused. -/
def observe (state : TelemetryState) : List Event → Observed Unit
  | [] => ⟨state, [], .ok ()⟩
  | event :: events =>
    let first := observeOne state event
    match first.answer with
    | .error e => ⟨first.state, first.lines, .error e⟩
    | .ok () =>
      let rest := observe first.state events
      ⟨rest.state, first.lines ++ rest.lines, rest.answer⟩

/-- Collects metrics in their order, up to the first one whose amounts cannot be added up. -/
def collectMetrics : List Metric → List Metric
  | [] => []
  | metric :: metrics =>
    metric.collect :: if metric.canCollect then collectMetrics metrics else metrics

/-- The metrics as they are reported, sorted by name. -/
def reports (telemetry : Telemetry) : Except Metric.ReportFault (List Metric) := do
  let metrics ← telemetry.metrics.mapM Metric.report
  pure (metrics.mergeSort fun a b => decide (a.name ≤ b.name))

/-- Collects what was recorded so far, and reports it. -/
def collect (state : TelemetryState) : Observed (List Metric) :=
  let (telemetry, lines) := current state
  let collected := { telemetry with metrics := collectMetrics telemetry.metrics }
  ⟨.started collected, lines,
    if telemetry.metrics.all Metric.canCollect then collected.reports.mapError .unreported
    else .error .amountTooLarge⟩

end Telemetry

end FlowDiagram
