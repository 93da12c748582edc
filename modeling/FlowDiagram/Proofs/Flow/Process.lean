import FlowDiagram.Flow.Reporting

/-!
# Processes

A process generates flows, by itself or in runs, and uses telemetry for other things in between. One
act follows the other; only the flows of one act may be generated at the same time, by a pool whose
workers take turns.

## Main definitions

* `Act`: what a process does.
* `Process`: telemetry, and the results that were returned so far.
* `Process.after`: a process after some acts.
* `Process.lines`: the messages that a process shows.
-/

namespace FlowDiagram

/-- What a process does. A call that has failed does no more than to log it. -/
inductive Act
  /-- Telemetry is configured. -/
  | configure (settings : Option TelemetrySettings)
  /-- A value is recorded under a name. -/
  | record (name : Text) (value : Json) (given : Except String Attributes)
  /-- A timer is stopped. -/
  | timer (name : Text)
  /-- A span is opened and closed. -/
  | span (name : Text) (given : Except String Attributes)
  /-- A message is logged. -/
  | log (note : Note)
  /-- Another function has returned. -/
  | returned (function name : Text) (options : CallOptions) (result : Text)
  /-- Metrics are collected. -/
  | collect
  /-- The flows of some classes, or of all entry points, are generated, where the workers of a pool
  take the given turns. -/
  | generateAll (settings : FlowSettings) (index : FactIndex) (outages : Outages)
      (turns : List Turn) (entries : Option (List ClassFact))
  /-- The facts at a path are loaded, and all their flows are generated. -/
  | run (settings : FlowSettings) (room : Nat) (disk : Disk) (outages : Outages)
      (turns : List Turn) (root : Path)

/-- The messages that an act shows. -/
def Act.lines (state : TelemetryState) : Act → List LogLine
  | .configure settings => (Telemetry.configure state settings).lines
  | .record name value given => (Telemetry.recordValue state name value given).lines
  | .timer name => (Telemetry.observe state (Event.timer name)).lines
  | .span name given => (Telemetry.span state name given).lines
  | .log note => Telemetry.log state note
  | .returned function name options result =>
    (Telemetry.returned state function name options result).lines
  | .collect => (Telemetry.collect state).lines
  | .generateAll settings index outages turns entries =>
    ((allTask settings index outages turns entries).run state).lines
  | .run settings room disk outages turns root =>
    ((runTask settings room disk outages turns root).run state).lines

/-- A process: its telemetry, and the results that calls have returned so far, those inside runs
included. -/
structure Process where
  state : TelemetryState := .unstarted {}
  returned : List (List FlowResult) := []

namespace Process

/-- What an act makes of a process. -/
def perform (process : Process) : Act → Process
  | .configure settings =>
    { process with state := (Telemetry.configure process.state settings).state }
  | .record name value given =>
    { process with state := (Telemetry.recordValue process.state name value given).state }
  | .timer name =>
    { process with state := (Telemetry.observe process.state (Event.timer name)).state }
  | .span name given => { process with state := (Telemetry.span process.state name given).state }
  | .log _ => process
  | .returned function name options result =>
    { process with
      state := (Telemetry.returned process.state function name options result).state }
  | .collect => { process with state := (Telemetry.collect process.state).state }
  | .generateAll settings index outages turns entries =>
    let seen := (allTask settings index outages turns entries).run process.state
    { state := seen.state, returned := process.returned ++ seen.answer.toOption.toList }
  | .run settings room disk outages turns root =>
    let seen := (runTask settings room disk outages turns root).run process.state
    let summary := seen.answer.toOption.bind Except.toOption
    { state := seen.state, returned := process.returned ++ summary.toList.map (·.results) }

/-- The messages that a process shows while it acts. -/
def lines (process : Process) : List Act → List LogLine
  | [] => []
  | act :: acts => act.lines process.state ++ (process.perform act).lines acts

/-- A process after some acts. -/
def after (acts : List Act) : Process :=
  acts.foldl perform {}

theorem after_concat (acts : List Act) (act : Act) :
    after (acts ++ [act]) = (after acts).perform act := by
  rw [after, List.foldl_append, List.foldl_cons, List.foldl_nil, ← after]

end Process

end FlowDiagram
