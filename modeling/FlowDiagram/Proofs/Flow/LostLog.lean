import FlowDiagram.Proofs.Flow.Process
import FlowDiagram.Proofs.Telemetry.EarlyLog
import Mathlib.Data.List.Induction

/-!
# Logs that are lost

A process is refused if it asks for the messages from a level that does not exist. By then the log
has been closed. If telemetry has not started, it does not start, and what would have been shown in
the log before the start is lost. If it has, it has also taken over the level and the format, and no
message is shown any more, whatever the process does. Both are made good when telemetry is
configured with a level that exists.

## Main definitions

* `TelemetryState.mutedBy`: what a level that does not exist leaves.
* `TelemetryState.IsMutedBy`: the states that it leaves as they are.
* `Process.hushed`: a process whose log before the start was closed.

`Process.muted_after` is the main result.
-/

namespace FlowDiagram

/-- Telemetry that could not open the log that was asked for: it takes over the level and the format
all the same, and shows nothing. -/
def Telemetry.mutedBy (telemetry : Telemetry) (chosen : TelemetrySettings) : Telemetry :=
  { telemetry with
    settings := { telemetry.settings with
      logLevel := chosen.logLevel, jsonLogs := chosen.jsonLogs }
    threshold := none }

/-- A state in which the log that was asked for could not be opened. The one that was open before
is closed. -/
def TelemetryState.mutedBy (state : TelemetryState) (chosen : TelemetrySettings) :
    TelemetryState :=
  match state with
  | .unstarted log => .unstarted log.closed
  | .started telemetry => .started (telemetry.mutedBy chosen)

/-- Whether a state is already like this: there is no log before the start, or telemetry has the
level and the format that are asked for. -/
def TelemetryState.IsMutedBy (state : TelemetryState) (chosen : TelemetrySettings) : Prop :=
  match state with
  | .unstarted log => log.isOpen = false
  | .started telemetry =>
    telemetry.settings.logLevel = chosen.logLevel ∧ telemetry.settings.jsonLogs = chosen.jsonLogs

/-- Whether an act asks for messages from a level that exists. -/
def Act.OpensLog : Act → Prop
  | .configure (some chosen) => chosen.logLevel.level?.isSome = true
  | _ => False

/-- The process after its log before the start was closed. -/
def Process.hushed (process : Process) : Process :=
  { process with state := process.state.hushed }

open Telemetry (current)

section

variable {origin : TelemetryState} {telemetry : Telemetry} {process : Process}

/-! ## What acts leave of the log -/

/-- Telemetry that is asked for without settings starts with the default ones, unless it has
started. -/
theorem Telemetry.configure_none (state : TelemetryState) :
    Telemetry.configure state none = ⟨.started (current state).1, [], .ok (current state).1⟩ := by
  cases state <;> rfl

/-- Acts that do not choose a log keep to the one that there is. -/
theorem LogsAs.perform (h : LogsAs origin process.state) {act : Act}
    (hact : ∀ chosen, act ≠ .configure (some chosen)) :
    LogsAs origin (process.perform act).state ∧
      ∀ line ∈ act.lines process.state, origin.Shows line := by
  have of_logsAs {α : Type} {observed : Observed α} (hkept : observed.LogsAs origin) :
      LogsAs origin observed.state ∧ ∀ line ∈ observed.lines, origin.Shows line :=
    ⟨hkept.state, hkept.lines⟩
  cases act with
  | configure settings =>
    cases settings with
    | none =>
      rw [Process.perform, Act.lines, Telemetry.configure_none]
      exact of_logsAs (.quiet h.current (.ok ()))
    | some chosen => exact absurd rfl (hact chosen)
  | record name value given => exact of_logsAs (h.recordValue name value given)
  | timer name => exact of_logsAs (h.observe _)
  | span name given => exact of_logsAs (h.span name given)
  | log note => exact ⟨h, h.shows_of_mem_log⟩
  | returned function name options result =>
    exact of_logsAs (h.returned function name options result)
  | collect => exact of_logsAs h.collect
  | generateAll settings index outages turns entries => exact of_logsAs (h.run _)
  | run settings room disk outages turns root => exact of_logsAs (h.run _)

/-- Once the log before the start is closed, acts come to the same, and all that is lost are its
messages. -/
theorem Process.perform_hushed (process : Process) (act : Act) :
    process.hushed.perform act = (process.perform act).hushed ∧
      act.lines process.hushed.state = withoutEarly (act.lines process.state) := by
  have of_hushed {α : Type} {observed other : Observed α} (h : observed = other.hushed) :
      ({ process.hushed with state := observed.state } : Process) =
          ({ process with state := other.state } : Process).hushed ∧
        observed.lines = withoutEarly other.lines := by
    rw [h]
    exact ⟨rfl, rfl⟩
  cases act with
  | configure settings => exact of_hushed (Telemetry.configure_hushed process.state settings)
  | record name value given =>
    exact of_hushed (Telemetry.recordValue_hushed process.state name value given)
  | timer name => exact of_hushed (Telemetry.observe_hushed process.state _)
  | span name given => exact of_hushed (Telemetry.span_hushed process.state name given)
  | log note => exact ⟨rfl, Telemetry.log_hushed process.state note⟩
  | returned function name options result =>
    obtain ⟨hstate, hlines⟩ :=
      Telemetry.returned_hushed process.state function name options result
    exact ⟨congrArg (Process.mk · process.returned) hstate, hlines⟩
  | collect => exact of_hushed (Telemetry.collect_hushed process.state)
  | generateAll settings index outages turns entries =>
    have hrun := (allTask settings index outages turns entries).run_hushed process.state
    refine ⟨?_, congrArg Observed.lines hrun⟩
    rw [perform, perform]
    exact congrArg (fun seen : Observed (List FlowResult) =>
      (⟨seen.state, process.returned ++ seen.answer.toOption.toList⟩ : Process)) hrun
  | run settings room disk outages turns root =>
    have hrun := (runTask settings room disk outages turns root).run_hushed process.state
    refine ⟨?_, congrArg Observed.lines hrun⟩
    rw [perform, perform]
    exact congrArg (fun seen : Observed (Except LoadError RunSummary) =>
      (⟨seen.state, process.returned ++
        (seen.answer.toOption.bind Except.toOption).toList.map (·.results)⟩ : Process)) hrun

theorem Process.lines_hushed (process : Process) (acts : List Act) :
    process.hushed.lines acts = withoutEarly (process.lines acts) := by
  induction acts generalizing process with
  | nil => rfl
  | cons act acts ih =>
    obtain ⟨hnext, hlines⟩ := process.perform_hushed act
    rw [lines, lines, hlines, hnext, ih, withoutEarly_append]

/-! ## Levels of logs -/

/-- States in which the log, if there is one, has the level that the settings name. -/
def IsTuned (state : TelemetryState) : Prop :=
  (current state).1.threshold = (current state).1.settings.logLevel.level?

/-- Telemetry that starts by itself is tuned. -/
theorem isTuned_unstarted (log : EarlyLog) : IsTuned (.unstarted log) :=
  (by decide : some Level.info = LevelChoice.level? (.standard .info))

/-- Choosing a log tunes telemetry, also if there is no such log. -/
theorem isTuned_configure_some (state : TelemetryState) (chosen : TelemetrySettings) :
    IsTuned (Telemetry.configure state (some chosen)).state := by
  cases state with
  | unstarted log =>
    rw [Telemetry.configure]
    dsimp only [Option.getD_some]
    cases hlevel : chosen.logLevel.level? with
    | none => exact isTuned_unstarted _
    | some threshold => exact hlevel.symm
  | started telemetry =>
    rw [Telemetry.configure, Telemetry.reconfigure]
    dsimp only
    cases hlevel : chosen.logLevel.level? with
    | none => exact hlevel.symm
    | some threshold => exact hlevel.symm

theorem IsTuned.perform (h : IsTuned process.state) (act : Act) :
    IsTuned (process.perform act).state := by
  by_cases hchosen : ∃ chosen, act = .configure (some chosen)
  · obtain ⟨chosen, rfl⟩ := hchosen
    exact isTuned_configure_some process.state chosen
  · have hkept := ((LogsAs.refl process.state).perform (not_exists.mp hchosen)).1
    rw [IsTuned, hkept.threshold, hkept.settings]
    exact h

/-- The log of a process has the level that its settings name, whatever it has done. -/
theorem Process.isTuned_after (acts : List Act) : IsTuned (after acts).state := by
  induction acts using List.reverseRecOn with
  | nil => exact isTuned_unstarted {}
  | append_singleton acts act ih =>
    rw [Process.after_concat]
    exact ih.perform act

/-! ## Processes without a log -/

/-- States in which telemetry has started and has no log. -/
def IsMute (state : TelemetryState) : Prop :=
  ∃ telemetry, state = .started telemetry ∧ telemetry.threshold = none

/-- Without a log, nothing is to be shown. -/
theorem IsMute.not_shows {state : TelemetryState} (h : IsMute state) (line : LogLine) :
    ¬state.Shows line := by
  obtain ⟨telemetry, rfl, hthreshold⟩ := h
  rintro (hline | ⟨log, hlog, -⟩)
  · rw [current, Telemetry.shown, hthreshold] at hline
    exact List.not_mem_nil hline
  · exact TelemetryState.noConfusion hlog

/-- Only a level that exists brings a log back. -/
theorem IsMute.perform (h : IsMute process.state) {act : Act} (hact : ¬act.OpensLog) :
    IsMute (process.perform act).state ∧ act.lines process.state = [] := by
  obtain ⟨telemetry, hstate, hthreshold⟩ := id h
  by_cases hchosen : ∃ chosen, act = .configure (some chosen)
  · obtain ⟨chosen, rfl⟩ := hchosen
    have hlevel : chosen.logLevel.level? = none := Option.not_isSome_iff_eq_none.mp hact
    rw [Process.perform, Act.lines, hstate, Telemetry.configure, Telemetry.reconfigure]
    dsimp only
    rw [hlevel]
    exact ⟨⟨_, rfl, rfl⟩, rfl⟩
  · obtain ⟨hkept, hlines⟩ := (LogsAs.refl process.state).perform (not_exists.mp hchosen)
    refine ⟨?_, List.eq_nil_iff_forall_not_mem.mpr fun line hline =>
      h.not_shows line (hlines line hline)⟩
    cases hafter : (process.perform act).state with
    | unstarted log =>
      exact TelemetryState.noConfusion (hstate.symm.trans (hkept.early log hafter))
    | started other =>
      have hother := hkept.threshold
      rw [hafter, hstate] at hother
      exact ⟨other, rfl, hother.trans hthreshold⟩

theorem IsMute.lines_eq_nil (h : IsMute process.state) {acts : List Act}
    (hacts : ∀ act ∈ acts, ¬act.OpensLog) : process.lines acts = [] := by
  induction acts generalizing process with
  | nil => rfl
  | cons act acts ih =>
    obtain ⟨hact, hrest⟩ := List.forall_mem_cons.mp hacts
    obtain ⟨hmute, hlines⟩ := h.perform hact
    rw [Process.lines, hlines, ih hmute hrest, List.append_nil]

/-! ## Levels that do not exist -/

/-- A level that does not exist is refused. Telemetry that has not started does not start. -/
theorem Telemetry.configure_unknown (state : TelemetryState) {chosen : TelemetrySettings}
    (hunknown : chosen.logLevel.level? = none) :
    Telemetry.configure state (some chosen) =
      ⟨state.mutedBy chosen, [], .error (.unknownLevel chosen.logLevel.name)⟩ := by
  cases state with
  | unstarted log =>
    rw [Telemetry.configure]
    dsimp only [Option.getD_some]
    rw [hunknown]
    rfl
  | started telemetry =>
    rw [Telemetry.configure, Telemetry.reconfigure]
    dsimp only
    rw [hunknown]
    rfl

theorem Telemetry.mutedBy_eq_self_iff {chosen : TelemetrySettings} :
    telemetry.mutedBy chosen = telemetry ↔
      telemetry.settings.logLevel = chosen.logLevel ∧
        telemetry.settings.jsonLogs = chosen.jsonLogs ∧ telemetry.threshold = none := by
  rw [Telemetry.mutedBy]
  obtain ⟨⟨serviceName, logLevel, jsonLogs, tracing, metrics⟩, threshold⟩ := telemetry
  simp only [Telemetry.mk.injEq, TelemetrySettings.mk.injEq, true_and, and_true, and_assoc]
  simp only [eq_comm]

/-- A tuned state stays as it is if it has been left by such a level. -/
theorem IsTuned.mutedBy_eq_self_iff {state : TelemetryState} (h : IsTuned state)
    {chosen : TelemetrySettings} (hunknown : chosen.logLevel.level? = none) :
    state.mutedBy chosen = state ↔ state.IsMutedBy chosen := by
  cases state with
  | unstarted log =>
    obtain ⟨isOpen, printsRecords⟩ := log
    simp [TelemetryState.mutedBy, TelemetryState.IsMutedBy, EarlyLog.closed, eq_comm]
  | started telemetry =>
    have hthreshold : telemetry.threshold = telemetry.settings.logLevel.level? := h
    rw [TelemetryState.mutedBy, TelemetryState.IsMutedBy, TelemetryState.started.injEq,
      Telemetry.mutedBy_eq_self_iff]
    refine ⟨fun hsame => ⟨hsame.1, hsame.2.1⟩, fun hsame => ⟨hsame.1, hsame.2, ?_⟩⟩
    rw [hthreshold, hsame.1, hunknown]

/-- What could not be opened is forgotten once there is a log again. -/
theorem Telemetry.configure_mutedBy (state : TelemetryState) (chosen : TelemetrySettings)
    {settings : TelemetrySettings} (hknown : settings.logLevel.level?.isSome = true) :
    Telemetry.configure (state.mutedBy chosen) (some settings) =
      Telemetry.configure state (some settings) := by
  cases state with
  | unstarted log =>
    obtain ⟨threshold, hlevel⟩ := Option.isSome_iff_exists.mp hknown
    rw [TelemetryState.mutedBy, configure, configure, Option.getD_some, hlevel]
  | started telemetry => rfl

end

namespace Process

/-- A process that asks for a level that does not exist is refused and shows nothing. Its log is
closed, and telemetry that has started takes over the level and the format that it was asked for, so
that the process is the same as before only if it had lost its log in the same way. Before the start
the messages of the log that was open then are lost from now on, and nothing else. After the start
nothing is shown any more until a level is chosen that exists. Choosing such a level comes to the
same as if the other had not been asked for. -/
theorem muted_after (acts : List Act) (chosen : TelemetrySettings)
    (hunknown : chosen.logLevel.level? = none) :
    let before := after acts
    let refused := Telemetry.configure before.state (some chosen)
    let muted := before.perform (.configure (some chosen))
    refused.answer = .error (.unknownLevel chosen.logLevel.name) ∧
      refused.lines = [] ∧
      refused.state = before.state.mutedBy chosen ∧
      (refused.state = before.state ↔ before.state.IsMutedBy chosen) ∧
      (before.state.telemetry?.isSome = false →
        ∀ later : List Act, muted.lines later = withoutEarly (before.lines later)) ∧
      (before.state.telemetry?.isSome = true →
        ∀ later : List Act, (∀ act ∈ later, ¬act.OpensLog) → muted.lines later = []) ∧
      ∀ settings, settings.logLevel.level?.isSome = true →
        Telemetry.configure refused.state (some settings) =
          Telemetry.configure before.state (some settings) := by
  intro before refused muted
  have hrefused : refused = _ := Telemetry.configure_unknown before.state hunknown
  have hmuted : muted.state = before.state.mutedBy chosen := congrArg Observed.state hrefused
  refine ⟨by rw [hrefused], by rw [hrefused], hmuted, ?_, fun hunstarted later => ?_,
    fun hstarted later hlater => ?_, fun settings hknown => ?_⟩
  · rw [hrefused]
    exact (isTuned_after acts).mutedBy_eq_self_iff hunknown
  · rw [← lines_hushed]
    refine congrArg (Process.lines · later)
      (congrArg (Process.mk · before.returned) (hmuted.trans ?_))
    cases hstate : before.state with
    | unstarted log => rfl
    | started telemetry =>
      rw [hstate] at hunstarted
      exact nomatch hunstarted
  · refine IsMute.lines_eq_nil ?_ hlater
    cases hstate : before.state with
    | unstarted log =>
      rw [hstate] at hstarted
      exact nomatch hstarted
    | started telemetry =>
      rw [hstate] at hmuted
      exact ⟨telemetry.mutedBy chosen, hmuted, rfl⟩
  · rw [hrefused]
    exact Telemetry.configure_mutedBy before.state chosen hknown

/-- Settings that ask for records of the messages from a level that does not exist. -/
def bogusSettings : TelemetrySettings :=
  { logLevel := .named "bogus", jsonLogs := true }

/-- An error in a watched call, which is written to the log. -/
def callError : Note :=
  .notExecuted "m.print" "out of paper"

/-- Telemetry that has started with default settings loses an error until it is configured with a
level that exists, and the lost level is forgotten then. If telemetry has not started, the error is
lost, and a record that warns is not. -/
theorem muted_after_bogus :
    let fresh := after []
    let before := after [.configure none]
    let refused := Telemetry.configure before.state (some bogusSettings)
    let losses : List Act := [.log callError, .log (.other .warning "no paper")]
    bogusSettings.logLevel.level? = none ∧
      refused.answer = .error (.unknownLevel "bogus") ∧
      ((fresh.perform (.configure (some bogusSettings))).lines losses).map (·.level) =
        [.warning] ∧
      (before.perform (.configure (some bogusSettings))).lines losses = [] ∧
      Telemetry.configure refused.state (some {}) = Telemetry.configure before.state (some {}) := by
  have hunknown : bogusSettings.logLevel.level? = none := by decide
  obtain ⟨hanswer, -, -, -, -, hlines, hrepaired⟩ :=
    muted_after [.configure none] bogusSettings hunknown
  obtain ⟨-, -, -, -, hfresh, -, -⟩ := muted_after [] bogusSettings hunknown
  refine ⟨hunknown, hanswer, ?_, hlines rfl _ ?_, hrepaired {} (by decide)⟩
  · rw [hfresh rfl]
    decide
  · simp only [List.forall_mem_cons]
    exact ⟨id, id, fun _ h => nomatch h⟩

/-- A refusal leaves a process changed. If telemetry has started, it has another level and another
format than before, and an error that it would have shown is lost. If it has not, the error is lost
as well. -/
theorem not_unchanged_bogus :
    let fresh := after []
    let before := after [.configure none]
    let refused := Telemetry.configure before.state (some bogusSettings)
    let loss : List Act := [.log callError]
    refused.answer = .error (.unknownLevel "bogus") ∧
      refused.state ≠ before.state ∧
      before.state.telemetry?.map (·.settings.logLevel) = some (.standard .info) ∧
      refused.state.telemetry?.map (·.settings.logLevel) = some (.named "bogus") ∧
      before.state.telemetry?.map (·.settings.jsonLogs) = some false ∧
      refused.state.telemetry?.map (·.settings.jsonLogs) = some true ∧
      (before.lines loss).map (·.level) = [.error] ∧
      (before.perform (.configure (some bogusSettings))).lines loss = [] ∧
      (Telemetry.configure fresh.state (some bogusSettings)).answer =
        .error (.unknownLevel "bogus") ∧
      (fresh.lines loss).map (·.level) = [.error] ∧
      (fresh.perform (.configure (some bogusSettings))).lines loss = [] := by
  intro fresh before refused loss
  have hbefore : before.state.telemetry?.map (·.settings.jsonLogs) = some false := by decide
  have hrefused : refused.state.telemetry?.map (·.settings.jsonLogs) = some true := by decide
  refine ⟨rfl, fun heq => ?_, by decide, by decide, hbefore, hrefused, by decide, rfl, rfl,
    by decide, rfl⟩
  rw [heq, hbefore] at hrefused
  exact nomatch hrefused

end Process

end FlowDiagram
