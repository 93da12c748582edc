import FlowDiagram.Flow.Task
import FlowDiagram.Proofs.Telemetry.Accounts

/-!
# What is logged

Which messages are shown, and how, is settled when telemetry is configured. Nothing else that a
process does with telemetry changes this: whatever is recorded, traced, logged or collected, and
whatever tasks are done, telemetry goes on to log as it did before, and it has shown no message that
this log, or the one before the start, does not show.

## Main definitions

* `LogsAs`: states in which telemetry logs as it does in some state.
* `TelemetryState.Shows`: the messages that are shown from some state on.
* `Observed.LogsAs`: operations that keep to this log.
-/

namespace FlowDiagram

open Telemetry (current)

/-- A state in which telemetry logs as it does in the given one, as soon as it is used. Before the
start this is the same state. -/
structure LogsAs (origin state : TelemetryState) : Prop where
  settings : (current state).1.settings = (current origin).1.settings
  threshold : (current state).1.threshold = (current origin).1.threshold
  early : ∀ log, state = .unstarted log → origin = .unstarted log

/-- A message is shown in the log of telemetry, or in the one before the start. -/
def TelemetryState.Shows (state : TelemetryState) (line : LogLine) : Prop :=
  line ∈ (current state).1.shown line.note ∨
    ∃ log, state = .unstarted log ∧ line ∈ log.shown line.note

/-- An operation that leaves such a state, and has shown only messages that are to be shown. -/
structure Observed.LogsAs {α : Type} (origin : TelemetryState) (observed : Observed α) :
    Prop where
  state : FlowDiagram.LogsAs origin observed.state
  lines : ∀ line ∈ observed.lines, origin.Shows line

section

variable {α : Type} {origin state : TelemetryState}

theorem LogsAs.refl (state : TelemetryState) : LogsAs state state :=
  ⟨rfl, rfl, fun _ h => h⟩

/-- Metrics make no difference to the log. -/
theorem LogsAs.congr {telemetry other : Telemetry} (h : LogsAs origin (.started telemetry))
    (hsettings : other.settings = telemetry.settings)
    (hthreshold : other.threshold = telemetry.threshold) : LogsAs origin (.started other) :=
  ⟨hsettings.trans h.settings, hthreshold.trans h.threshold, fun _ heq => nomatch heq⟩

theorem LogsAs.current (h : LogsAs origin state) : LogsAs origin (.started (current state).1) :=
  ⟨h.settings, h.threshold, fun _ heq => nomatch heq⟩

/-- Telemetry that starts by itself says nothing about it, as nobody has asked for details. -/
@[simp]
theorem Telemetry.lines_current (state : TelemetryState) : (current state).2 = [] := by
  cases state with
  | unstarted log => rfl
  | started telemetry => rfl

/-! ## Messages -/

theorem Telemetry.mem_shown {telemetry : Telemetry} {line : LogLine} {note : Note}
    (h : line ∈ telemetry.shown note) : line ∈ telemetry.shown line.note := by
  have hnote : line.note = note := by
    rw [Telemetry.shown] at h
    split at h
    · exact nomatch h
    · split at h
      · rw [List.mem_singleton.mp h]
      · exact nomatch h
  rwa [hnote]

theorem EarlyLog.mem_shown {log : EarlyLog} {line : LogLine} {note : Note}
    (h : line ∈ log.shown note) : line ∈ log.shown line.note := by
  have hnote : line.note = note := by
    rw [EarlyLog.shown] at h
    split at h
    all_goals
      split at h
      · rw [List.mem_singleton.mp h]
      · exact nomatch h
  rwa [hnote]

section

variable {telemetry : Telemetry} (h : LogsAs origin (.started telemetry))

include h

/-- What is shown is a matter of the log alone. -/
theorem LogsAs.shown_eq : telemetry.shown = (Telemetry.current origin).1.shown := by
  funext note
  rw [Telemetry.shown, Telemetry.shown, show telemetry.settings = _ from h.settings,
    show telemetry.threshold = _ from h.threshold]

theorem LogsAs.shows_of_mem_flatMap {notes : List Note} :
    ∀ line ∈ notes.flatMap telemetry.shown, origin.Shows line := by
  intro line hline
  rw [h.shown_eq] at hline
  obtain ⟨note, -, hnote⟩ := List.mem_flatMap.mp hline
  exact .inl (Telemetry.mem_shown hnote)

end

theorem LogsAs.shows_of_mem_log (h : LogsAs origin state) {note : Note} :
    ∀ line ∈ Telemetry.log state note, origin.Shows line := by
  intro line hline
  cases state with
  | unstarted log => exact .inr ⟨log, h.early log rfl, EarlyLog.mem_shown hline⟩
  | started telemetry =>
    rw [Telemetry.log, h.shown_eq] at hline
    exact .inl (Telemetry.mem_shown hline)

/-- Nothing is shown. -/
theorem Observed.LogsAs.quiet (h : FlowDiagram.LogsAs origin state)
    (answer : Except TelemetryError α) : LogsAs origin ⟨state, [], answer⟩ :=
  ⟨h, fun _ hline => nomatch hline⟩

/-! ## Metrics and spans -/

theorem LogsAs.recordAmount {telemetry : Telemetry} (h : LogsAs origin (.started telemetry))
    (identity : MetricIdentity) (amount : Amount) (given : Except String Attributes) :
    (telemetry.recordAmount identity amount given).LogsAs origin := by
  rw [Telemetry.recordAmount]
  split
  · exact .quiet h _
  · split
    · exact ⟨h, h.shows_of_mem_log⟩
    · dsimp only
      split
      · exact ⟨h.congr rfl rfl, h.shows_of_mem_flatMap⟩
      · exact ⟨h, h.shows_of_mem_flatMap⟩

/-- A metric is found or started, or its name is refused. -/
theorem LogsAs.metricOf {telemetry : Telemetry} (h : LogsAs origin (.started telemetry))
    (name : Text) (isWhole : Bool) :
    LogsAs origin (.started (telemetry.metricOf name isWhole).1) := by
  rcases metricOf_cases telemetry name isWhole with
    ⟨_, -, heq⟩ | ⟨-, ⟨-, heq⟩ | heq | ⟨-, heq⟩⟩
  all_goals
    rw [heq]
    exact h.congr rfl rfl

theorem LogsAs.withMetric (h : LogsAs origin state) (name : Text) (isWhole : Bool)
    {action : Telemetry → MetricIdentity → Observed Unit}
    (haction : ∀ telemetry identity, LogsAs origin (.started telemetry) →
      (action telemetry identity).LogsAs origin) :
    (Telemetry.withMetric state name isWhole action).LogsAs origin := by
  have hfound := h.current.metricOf name isWhole
  rw [Telemetry.withMetric]
  simp only [Telemetry.lines_current, List.nil_append]
  split
  · exact .quiet h.current _
  · split
    · rename_i heq
      rw [heq] at hfound
      exact .quiet hfound _
    · rename_i heq
      rw [heq] at hfound
      exact haction _ _ hfound

theorem LogsAs.record (h : LogsAs origin state) (name : Text) (amount : Amount)
    (given : Except String Attributes) :
    (Telemetry.record state name amount given).LogsAs origin :=
  h.withMetric name _ fun _ identity hother => hother.recordAmount identity amount given

theorem LogsAs.recordValue (h : LogsAs origin state) (name : Text) (value : Json)
    (given : Except String Attributes) :
    (Telemetry.recordValue state name value given).LogsAs origin := by
  rw [Telemetry.recordValue]
  split
  · exact h.record name _ given
  · exact h.withMetric name _ fun _ _ hother => .quiet hother _

theorem LogsAs.span (h : LogsAs origin state) (name : Text)
    (given : Except String Attributes) : (Telemetry.span state name given).LogsAs origin := by
  rw [Telemetry.span]
  simp only [Telemetry.lines_current, List.nil_append]
  split
  · exact .quiet h.current _
  · split
    · exact .quiet h.current _
    · refine ⟨h.current, ?_⟩
      dsimp only
      rw [Function.comp_def, ← List.flatMap_map Telemetry.lossNote]
      exact h.current.shows_of_mem_flatMap

theorem LogsAs.collect (h : LogsAs origin state) :
    (Telemetry.collect state).LogsAs origin := by
  rw [Telemetry.collect]
  simp only [Telemetry.lines_current]
  exact ⟨h.current.congr rfl rfl, fun _ hline => nomatch hline⟩

/-! ## Events, calls and tasks -/

theorem LogsAs.observeOne (h : LogsAs origin state) (event : Event) :
    (Telemetry.observeOne state event).LogsAs origin := by
  cases event with
  | note note => exact ⟨h, h.shows_of_mem_log⟩
  | span =>
    rw [Telemetry.observeOne]
    simp only [Telemetry.lines_current]
    exact .quiet h.current _
  | count name => exact h.record name _ _
  | duration name => exact h.record _ _ _

theorem LogsAs.observe (h : LogsAs origin state) (events : List Event) :
    (Telemetry.observe state events).LogsAs origin := by
  induction events generalizing state with
  | nil => exact .quiet h _
  | cons event events ih =>
    have hfirst := h.observeOne event
    rw [Telemetry.observe]
    dsimp only
    split
    · exact ⟨hfirst.state, hfirst.lines⟩
    · have hrest := ih hfirst.state
      exact ⟨hrest.state, List.forall_mem_append.mpr ⟨hfirst.lines, hrest.lines⟩⟩

/-- The end of a call logs like any event, also if its level has no name. -/
theorem LogsAs.returned (h : LogsAs origin state) (function name : Text)
    (options : CallOptions) (result : Text) :
    (Telemetry.returned state function name options result).LogsAs origin := by
  rw [Telemetry.returned]
  split
  · exact h.observe _
  · have htimed := h.observe (if options.showsDuration then [.duration name] else [])
    generalize Telemetry.observe state (if options.showsDuration then [.duration name] else []) =
      timed at htimed
    dsimp only
    split
    · exact htimed
    · split
      · exact ⟨htimed.state, htimed.lines⟩
      · exact htimed

theorem LogsAs.run (h : LogsAs origin state) (task : Task α) : (task.run state).LogsAs origin := by
  induction task generalizing state with
  | done answer => exact .quiet h _
  | report event next ih =>
    have hreported := h.observeOne event
    have hrest := ih (Telemetry.observeOne state event).answer hreported.state
    exact ⟨hrest.state, List.forall_mem_append.mpr ⟨hreported.lines, hrest.lines⟩⟩

end

end FlowDiagram
