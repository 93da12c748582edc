import FlowDiagram.Proofs.Telemetry.Logging

/-!
# The log before the start

Before telemetry starts, messages that are written are shown in a log of their own. Closing this log
changes nothing but that: whatever is done afterwards comes to the same, except that the messages of
this log are missing.

## Main definitions

* `TelemetryState.hushed`: the state after that log was closed.
* `LogLine.isEarly`: the messages that were shown in it.
* `Observed.hushed`: an operation without these messages.

`Task.run_hushed` says that tasks come to the same.
-/

namespace FlowDiagram

open Telemetry (current)

/-- The state in which the log before the start is closed. Once telemetry has started, this has been
done. -/
def TelemetryState.hushed : TelemetryState → TelemetryState
  | .unstarted log => .unstarted log.closed
  | .started telemetry => .started telemetry

/-- Whether a message was shown in the log before the start: no other one has lines with the
date. -/
def LogLine.isEarly (line : LogLine) : Bool :=
  line.format = .dated

/-- Messages without those of the log before the start. -/
def withoutEarly (lines : List LogLine) : List LogLine :=
  lines.filter (!·.isEarly)

/-- An operation after which that log is closed, and that has shown nothing in it. -/
def Observed.hushed {α : Type} (observed : Observed α) : Observed α :=
  { observed with state := observed.state.hushed, lines := withoutEarly observed.lines }

section

variable {α : Type}

theorem withoutEarly_append (lines more : List LogLine) :
    withoutEarly (lines ++ more) = withoutEarly lines ++ withoutEarly more :=
  List.filter_append ..

theorem withoutEarly_eq_self {lines : List LogLine} (h : ∀ line ∈ lines, line.isEarly = false) :
    withoutEarly lines = lines :=
  List.filter_eq_self.mpr fun line hline => by rw [h line hline, Bool.not_false]

/-- Closing the log before the start keeps no record from being printed. -/
theorem EarlyLog.shown_closed (log : EarlyLog) (note : Note) :
    log.closed.shown note = withoutEarly (log.shown note) := by
  rw [EarlyLog.shown, EarlyLog.shown, EarlyLog.closed]
  by_cases hrecord : note.isRecord = true
  · rw [if_pos hrecord, if_pos hrecord]
    split <;> rfl
  · rw [if_neg hrecord, if_neg hrecord, Bool.false_and, if_neg Bool.false_ne_true]
    split <;> rfl

/-! ## Operations that start telemetry -/

theorem Telemetry.current_hushed (state : TelemetryState) :
    current state.hushed = current state := by
  cases state <;> rfl

/-- The log of telemetry that has started is another one. -/
theorem Telemetry.isEarly_eq_false_of_mem_shown {telemetry : Telemetry} {note : Note}
    {line : LogLine} (h : line ∈ telemetry.shown note) : line.isEarly = false := by
  rw [Telemetry.shown] at h
  split at h
  · exact absurd h List.not_mem_nil
  · split at h
    · rw [List.mem_singleton.mp h]
      cases telemetry.settings.jsonLogs <;> rfl
    · exact absurd h List.not_mem_nil

/-- Once telemetry has started, nothing is left to be closed. -/
theorem Observed.LogsAs.hushed_eq {telemetry : Telemetry} {observed : Observed α}
    (h : observed.LogsAs (.started telemetry)) : observed.hushed = observed := by
  obtain ⟨state, lines, answer⟩ := observed
  have hstate : state.hushed = state := by
    cases state with
    | unstarted log => exact nomatch h.state.early log rfl
    | started telemetry => rfl
  have hlines : withoutEarly lines = lines := by
    refine withoutEarly_eq_self fun line hline => ?_
    rcases h.lines line hline with hshown | ⟨log, hlog, -⟩
    · exact Telemetry.isEarly_eq_false_of_mem_shown hshown
    · exact nomatch hlog
  rw [Observed.hushed, hstate, hlines]

/-- What an operation comes to that starts telemetry at once does not depend on the log before. -/
theorem hushed_of_current (operation : TelemetryState → Observed α)
    (hcurrent : ∀ state other, current state = current other → operation state = operation other)
    (hlogs : ∀ telemetry, (operation (.started telemetry)).LogsAs (.started telemetry))
    (state : TelemetryState) : operation state.hushed = (operation state).hushed := by
  have hstarted : current state = current (.started (current state).1) :=
    Prod.ext rfl (Telemetry.lines_current state)
  rw [hcurrent _ _ (Telemetry.current_hushed state), hcurrent _ _ hstarted, (hlogs _).hushed_eq]

namespace Telemetry

theorem withMetric_congr {state other : TelemetryState} (h : current state = current other)
    (name : Text) (isWhole : Bool) (action : Telemetry → MetricIdentity → Observed Unit) :
    withMetric state name isWhole action = withMetric other name isWhole action := by
  rw [withMetric, withMetric, h]

theorem record_hushed (state : TelemetryState) (name : Text) (amount : Amount)
    (given : Except String Attributes) :
    record state.hushed name amount given = (record state name amount given).hushed :=
  hushed_of_current (record · name amount given) (fun _ _ h => withMetric_congr h ..)
    (fun _ => (LogsAs.refl _).record name amount given) state

theorem recordValue_hushed (state : TelemetryState) (name : Text) (value : Json)
    (given : Except String Attributes) :
    recordValue state.hushed name value given = (recordValue state name value given).hushed := by
  refine hushed_of_current (recordValue · name value given) (fun state other h => ?_)
    (fun _ => (LogsAs.refl _).recordValue name value given) state
  rw [recordValue, recordValue]
  split
  · exact withMetric_congr h ..
  · exact withMetric_congr h ..

theorem span_hushed (state : TelemetryState) (name : Text) (given : Except String Attributes) :
    span state.hushed name given = (span state name given).hushed := by
  refine hushed_of_current (span · name given) (fun state other h => ?_)
    (fun _ => (LogsAs.refl _).span name given) state
  rw [span, span, h]

theorem collect_hushed (state : TelemetryState) :
    collect state.hushed = (collect state).hushed := by
  refine hushed_of_current collect (fun state other h => ?_)
    (fun _ => (LogsAs.refl _).collect) state
  rw [collect, collect, h]

/-! ## Messages and events -/

theorem log_hushed (state : TelemetryState) (note : Note) :
    log state.hushed note = withoutEarly (log state note) := by
  cases state with
  | unstarted early => exact early.shown_closed note
  | started telemetry =>
    exact (withoutEarly_eq_self fun _ => isEarly_eq_false_of_mem_shown).symm

theorem observeOne_hushed (state : TelemetryState) (event : Event) :
    observeOne state.hushed event = (observeOne state event).hushed := by
  cases event with
  | note note => exact congrArg (Observed.mk _ · _) (log_hushed state note)
  | span =>
    refine hushed_of_current (observeOne · .span) (fun state other h => ?_)
      (fun _ => (LogsAs.refl _).observeOne .span) state
    rw [observeOne, observeOne, h]
  | count name => exact record_hushed state ..
  | duration name => exact record_hushed state ..

theorem observe_hushed (state : TelemetryState) (events : List Event) :
    observe state.hushed events = (observe state events).hushed := by
  induction events generalizing state with
  | nil => rfl
  | cons event events ih =>
    rw [observe, observe, observeOne_hushed]
    dsimp only [Observed.hushed]
    cases (observeOne state event).answer with
    | error e => rfl
    | ok u =>
      dsimp only
      rw [ih, withoutEarly_append]
      rfl

/-- The end of a call leaves the same. Only a level without a name may be found out when there is a
log, and go unnoticed when there is none. -/
theorem returned_hushed (state : TelemetryState) (function name : Text) (options : CallOptions)
    (result : Text) :
    (returned state.hushed function name options result).state =
        (returned state function name options result).state.hushed ∧
      (returned state.hushed function name options result).lines =
        withoutEarly (returned state function name options result).lines := by
  rw [returned, returned]
  split
  · rw [observe_hushed]
    exact ⟨rfl, rfl⟩
  · rw [observe_hushed]
    generalize observe state (if options.showsDuration then [.duration name] else []) = timed
    dsimp only [Observed.hushed]
    cases timed.answer with
    | error e => exact ⟨rfl, rfl⟩
    | ok u =>
      dsimp only
      split <;> split <;> exact ⟨rfl, rfl⟩

/-- Configuring telemetry closes the log before the start anyway. -/
theorem configure_hushed (state : TelemetryState) (settings : Option TelemetrySettings) :
    configure state.hushed settings = (configure state settings).hushed := by
  cases state with
  | started telemetry =>
    cases settings with
    | none => rfl
    | some chosen =>
      rw [TelemetryState.hushed, configure, reconfigure]
      dsimp only
      split <;> rfl
  | unstarted early =>
    rw [TelemetryState.hushed, configure, configure]
    dsimp only
    split
    · rfl
    · have hstarted := LogsAs.refl (.started (start (settings.getD {}) ‹_›).1)
      exact (Observed.LogsAs.hushed_eq ⟨hstarted, hstarted.shows_of_mem_flatMap⟩).symm

end Telemetry

/-- Tasks report the same events and come to the same answers. -/
theorem Task.run_hushed (task : Task α) (state : TelemetryState) :
    task.run state.hushed = (task.run state).hushed := by
  induction task generalizing state with
  | done answer => rfl
  | report event next ih =>
    rw [run, run, Telemetry.observeOne_hushed]
    dsimp only [Observed.hushed]
    rw [ih, withoutEarly_append]
    rfl

end

end FlowDiagram
