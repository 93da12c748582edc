import FlowDiagram.Telemetry.State

/-!
# Calls

What is logged about the call of a function: that it has returned, how long it took, what it
returned, or that it has failed.

## Main definitions

* `CallOptions`: what is logged about a call.
* `Telemetry.returned`, `Telemetry.failed`: the end of a call.
-/

namespace FlowDiagram

/-- What is logged about the calls of a function. -/
structure CallOptions where
  level : Text := Level.debug.name
  showsResult : Bool := false
  showsDuration : Bool := true
  deriving DecidableEq, Repr

namespace Telemetry

/-- The number of characters of a result that are logged. -/
def shownResult : Nat := 200

/-- The events of a call that has returned. -/
def returnedEvents (function name : Text) (options : CallOptions) (level : Level)
    (result : Text) : List Event :=
  let shown := if options.showsResult then some (result.take shownResult) else none
  (if options.showsDuration then [.duration name] else []) ++
    [.note (.executed function level options.showsDuration shown)]

/-- Whether messages are shown at all. -/
def hasLog : TelemetryState → Bool
  | .unstarted log => log.isOpen
  | .started telemetry => telemetry.threshold.isSome

/-- The end of a call that has returned. A level without a name is found out only when the message
is about to be shown, after the duration has been recorded. -/
def returned (state : TelemetryState) (function name : Text) (options : CallOptions)
    (result : Text) : Observed Unit :=
  match Level.named? options.level with
  | some level => observe state (returnedEvents function name options level result)
  | none =>
    let timed := observe state (if options.showsDuration then [.duration name] else [])
    match timed.answer with
    | .error _ => timed
    | .ok () =>
      if hasLog timed.state then { timed with answer := .error (.unknownLevel options.level) }
      else timed

/-- The end of a call that has failed. -/
def failed (state : TelemetryState) (function message : Text) : List LogLine :=
  log state (.notExecuted function message)

end Telemetry

end FlowDiagram
