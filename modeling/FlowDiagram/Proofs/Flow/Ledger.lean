import FlowDiagram.Proofs.Flow.Isolation
import FlowDiagram.Proofs.Flow.Process
import FlowDiagram.Proofs.Flow.Reporting
import FlowDiagram.Proofs.Telemetry.Reports
import Mathlib.Data.List.Induction
import Mathlib.Data.List.Infix

/-!
# The metrics account for every flow

A process generates flows and uses telemetry for other things in between. As long as these spare the
accounts, no report about a flow is refused, so that all flows have the results that they have
without telemetry, and each of them is in the accounts: once in the number of flows with its status
and once among the times that flows took. Flows may be generated by a pool, whatever turns its
workers take, if telemetry has started before.

## Main definitions

* `Process.Orderly`: acts after which the metrics can be relied on.
* `Balanced`: metrics that account for results.

`Process.balanced_after` is the main result.
-/

namespace FlowDiagram

/-! ## What flows are charged to -/

/-- What the result of a flow is charged to. -/
def FlowResult.accounts (result : FlowResult) : List MetricIdentity :=
  (if result.isSuccess then [flowTimes, flowsGenerated] else []) ++
    if result.isFailure then [flowTimes, flowsFailed] else []

/-- What a call that has returned some results is charged to. -/
def charge (results : List FlowResult) : List MetricIdentity :=
  results.flatMap FlowResult.accounts ++ [callTimes]

theorem account_timer : (Event.timer "flow_generation").filterMap Event.account? = [flowTimes] := by
  decide

theorem account_generatedEvents : generatedEvents.filterMap Event.account? = [callTimes] := by
  decide

theorem account_notes (notes : List Note) :
    (notes.map Event.note).filterMap Event.account? = [] := by
  rw [List.filterMap_map]
  exact List.filterMap_eq_nil_iff.mpr fun _ _ => rfl

section

variable (settings : FlowSettings) (index : FactIndex) (outages : Outages)

/-- The events of a flow are charged to the accounts of its result. -/
theorem accounts_generateFlow (fact : ClassFact) :
    (generateFlow settings index outages fact).2.filterMap Event.account? =
      (generateFlow settings index outages fact).1.accounts := by
  rw [generateFlow]
  dsimp only
  rw [List.filterMap_append, List.filterMap_append, account_timer,
    List.filterMap_cons_none (by rfl), account_notes]
  cases drawFlow settings index outages
      ((FlowAnalysis.ofEntry settings.drawing index fact.entry).flow fact.name) <;> rfl

/-- The events of a call are charged to the accounts of its results. -/
theorem accounts_generateAll (entries : Option (List ClassFact)) :
    ((generateAll settings index outages entries).2.filterMap Event.account?).Perm
      (charge (generateAll settings index outages entries).1) := by
  rw [generateAll]
  dsimp only
  have hnotice : ∀ selected : List ClassFact,
      (if selected.isEmpty then [Event.note .noEntryPoints] else []).filterMap Event.account? =
        [] := by
    intro selected
    split <;> rfl
  rw [List.filterMap_append, List.filterMap_append, hnotice, List.nil_append,
    account_generatedEvents, charge, List.filterMap_flatMap, List.flatMap_map, List.map_map]
  refine List.Perm.append_right _ ?_
  simp only [accounts_generateFlow]
  rw [← List.flatMap_map (fun fact => (generateFlow settings index outages fact).1)
    FlowResult.accounts]
  exact (List.mergeSort_perm _ _).symm.flatMap_right _

/-- Loading facts is charged to no account. -/
theorem accounts_loadIndex (room : Nat) (disk : Disk) (root : Path) :
    (loadIndex room disk root).events.filterMap Event.account? = [] := by
  have hloading : ∀ notes : List Note,
      (Event.span :: notes.map Event.note).filterMap Event.account? = [] := by
    intro notes
    rw [List.filterMap_cons_none (by rfl), account_notes]
  rw [loadIndex]
  split
  · rfl
  · dsimp only
    split
    · exact hloading _
    · exact hloading _

/-- The results that a run comes to, if its facts can be loaded. -/
def runResults (room : Nat) (disk : Disk) (root : Path) : List (List FlowResult) :=
  (run settings room disk outages root).answer.toOption.toList.map (·.results)

/-- The events of a run are charged to the accounts of its results. -/
theorem accounts_run (room : Nat) (disk : Disk) (root : Path) :
    ((run settings room disk outages root).events.filterMap Event.account?).Perm
      ((runResults settings outages room disk root).flatMap charge) := by
  rw [runResults, run]
  cases (loadIndex room disk root).answer with
  | error e =>
    dsimp only
    rw [accounts_loadIndex]
    rfl
  | ok loaded =>
    dsimp only
    rw [List.filterMap_append, List.filterMap_append, accounts_loadIndex, List.nil_append]
    have hnote : ∀ note, [Event.note note].filterMap Event.account? = [] := fun _ => rfl
    rw [hnote, List.append_nil]
    have hresults : ∀ results, charge results =
        [(RunSummary.ofResults loaded results).results].flatMap charge := by
      intro results
      rw [List.flatMap_singleton]
      rfl
    exact (accounts_generateAll settings loaded.index outages none).trans
      (List.Perm.of_eq (hresults _))

end

/-! ## Acts that the metrics can be relied on after -/

namespace Act

/-- The results that an act comes to without telemetry, call by call. -/
def results : Act → List (List FlowResult)
  | .generateAll settings index outages _ entries =>
    [(FlowDiagram.generateAll settings index outages entries).1]
  | .run settings room disk outages _ root => runResults settings outages room disk root
  | _ => []

/-- Whether an act spares the accounts: it generates flows, or it records nothing that could touch
an account. -/
def Spares : Act → Prop
  | .record name value _ => IsSpared name (Amount.ofJson? value)
  | .timer name => IsSpared (Telemetry.durationMetric name) (some (.fraction 0))
  | .returned _ name options _ =>
    options.showsDuration = true →
      IsSpared (Telemetry.durationMetric name) (some (.fraction 0))
  | _ => True

/-- Whether an act leaves flows to a pool whose workers may be the first to use telemetry. Those of
a run are not, as its search for facts comes first. -/
def StartsWithPool : Act → Prop
  | .generateAll settings index _ _ entries =>
    settings.pools (selectEntries settings index entries) = true
  | _ => False

end Act

/-- Acts after which the metrics can be relied on: all of them spare the accounts, metrics are
wanted whenever telemetry has started, and it has started before flows are left to a pool. Otherwise
each worker of the pool might start telemetry of its own, and metrics would be lost. -/
structure Process.Orderly (acts : List Act) : Prop where
  spares : ∀ act ∈ acts, act.Spares
  wanted : ∀ earlier, earlier <+: acts → ∀ telemetry ∈ (after earlier).state.telemetry?,
    telemetry.settings.metrics = true
  started : ∀ earlier act, earlier ++ [act] <+: acts → act.StartsWithPool →
    (after earlier).state.telemetry?.isSome = true

/-! ## Acts that spare the accounts -/

section

variable {counts : MetricIdentity → Nat} {state : TelemetryState}

/-- Configuring telemetry keeps the accounts, unless it starts without metrics. -/
theorem Keeps.configure (h : Keeps counts state) {settings : Option TelemetrySettings}
    (hwanted : ∀ telemetry ∈ (Telemetry.configure state settings).state.telemetry?,
      telemetry.settings.metrics = true) :
    Keeps counts (Telemetry.configure state settings).state := by
  cases state with
  | unstarted log =>
    rw [Telemetry.configure] at hwanted ⊢
    dsimp only at hwanted ⊢
    split at hwanted
    · exact h
    · rename_i threshold _
      exact accounted_start (hwanted _ rfl) threshold h
  | started telemetry =>
    cases settings with
    | none => exact h
    | some settings =>
      have hkept : ∀ threshold, Accounted counts { telemetry with
          settings := { telemetry.settings with
            logLevel := settings.logLevel, jsonLogs := settings.jsonLogs }
          threshold } :=
        fun _ => ⟨h.wanted, h.unspoiled, h.named, h.own, h.distinct, h.holds⟩
      rw [Telemetry.configure, Telemetry.reconfigure]
      dsimp only
      split
      · exact hkept _
      · exact hkept _

/-- Telemetry that keeps the accounts wants metrics, and goes on to do so. -/
theorem Keeps.wanted (h : Keeps counts state) :
    ∀ telemetry ∈ state.telemetry?, telemetry.settings.metrics = true := by
  cases state with
  | unstarted log => exact fun _ htelemetry => nomatch htelemetry
  | started telemetry => exact fun _ htelemetry => Option.some.inj htelemetry ▸ h.wanted

theorem Keeps.wanted_configure (h : Keeps counts state) {settings : Option TelemetrySettings}
    (hsettings : ∀ chosen ∈ settings, chosen.metrics = true) :
    ∀ telemetry ∈ (Telemetry.configure state settings).state.telemetry?,
      telemetry.settings.metrics = true := by
  intro telemetry htelemetry
  cases state with
  | unstarted log =>
    have hchosen : (settings.getD {}).metrics = true := by
      cases settings with
      | none => rfl
      | some chosen => exact hsettings chosen rfl
    rw [Telemetry.configure] at htelemetry
    dsimp only at htelemetry
    split at htelemetry
    · exact nomatch htelemetry
    · obtain rfl := Option.some.inj htelemetry
      exact hchosen
  | started started =>
    cases settings with
    | none => exact h.wanted telemetry htelemetry
    | some chosen =>
      rw [Telemetry.configure, Telemetry.reconfigure] at htelemetry
      dsimp only at htelemetry
      split at htelemetry
      all_goals
        obtain rfl := Option.some.inj htelemetry
        exact h.wanted started rfl

theorem Keeps.span (h : Keeps counts state) (name : Text) (given : Except String Attributes) :
    Keeps counts (Telemetry.span state name given).state := by
  rw [Telemetry.span]
  dsimp only
  split
  · exact h.current
  · split <;> exact h.current

theorem Keeps.collect (h : Keeps counts state) :
    Keeps counts (Telemetry.collect state).state :=
  h.current.collectMetrics

/-- An event that records a spared duration, or none, touches no account. -/
theorem Keeps.observe_spared {events : List Event}
    (h : Keeps counts state)
    (hspared : ∀ event ∈ events, (∃ note, event = .note note) ∨
      ∃ name, event = .duration name ∧
        IsSpared (Telemetry.durationMetric name) (some (.fraction 0))) :
    Keeps counts (Telemetry.observe state events).state := by
  induction events generalizing state with
  | nil => exact h
  | cons event events ih =>
    obtain ⟨hfirst, hrest⟩ := List.forall_mem_cons.mp hspared
    have hone : Keeps counts (Telemetry.observeOne state event).state := by
      rcases hfirst with ⟨note, rfl⟩ | ⟨name, rfl, hname⟩
      · exact h
      · exact h.record_spared hname _
    rw [Telemetry.observe]
    dsimp only
    split
    · exact hone
    · exact ih hone hrest

theorem Keeps.timer (h : Keeps counts state) {name : Text}
    (hspared : IsSpared (Telemetry.durationMetric name) (some (.fraction 0))) :
    Keeps counts (Telemetry.observe state (Event.timer name)).state := by
  refine h.observe_spared (List.forall_mem_cons.mpr ⟨Or.inl ⟨_, rfl⟩, ?_⟩)
  exact List.forall_mem_singleton.mpr (Or.inr ⟨name, rfl, hspared⟩)

theorem Keeps.returned (h : Keeps counts state) {function name result : Text}
    {options : CallOptions} (hspared : options.showsDuration = true →
      IsSpared (Telemetry.durationMetric name) (some (.fraction 0))) :
    Keeps counts (Telemetry.returned state function name options result).state := by
  have htimed : ∀ event ∈ (if options.showsDuration then [Event.duration name] else []),
      (∃ note, event = .note note) ∨ ∃ name, event = .duration name ∧
        IsSpared (Telemetry.durationMetric name) (some (.fraction 0)) := by
    intro event hevent
    split at hevent
    · rename_i hshows
      exact Or.inr ⟨name, List.mem_singleton.mp hevent, hspared hshows⟩
    · exact absurd hevent List.not_mem_nil
  rw [Telemetry.returned]
  split
  · refine h.observe_spared (List.forall_mem_append.mpr ⟨htimed, ?_⟩)
    exact List.forall_mem_singleton.mpr (Or.inl ⟨_, rfl⟩)
  · have hkeeps := h.observe_spared htimed
    dsimp only
    generalize Telemetry.observe state _ = timed at hkeeps ⊢
    cases timed.answer with
    | error e => exact hkeeps
    | ok u =>
      dsimp only
      split <;> exact hkeeps

end

namespace Process

/-- What the results of calls are charged to, all together. -/
def charged (returned : List (List FlowResult)) (account : MetricIdentity) : Nat :=
  (returned.flatMap charge).count account

theorem charged_append (returned more : List (List FlowResult)) (account : MetricIdentity) :
    charged (returned ++ more) account =
      charged returned account + (more.flatMap charge).count account := by
  rw [charged, List.flatMap_append, List.count_append, charged]

theorem charge_subset (results : List FlowResult) :
    ∀ account ∈ charge results, account ∈ accounts := by
  intro account haccount
  rcases List.mem_append.mp haccount with hflow | hcall
  · obtain ⟨result, -, haccount⟩ := List.mem_flatMap.mp hflow
    rcases List.mem_append.mp haccount with haccount | haccount
    all_goals
      split at haccount
      · simp only [List.mem_cons, List.not_mem_nil, or_false] at haccount
        rcases haccount with rfl | rfl <;> simp [accounts]
      · exact absurd haccount List.not_mem_nil
  · rw [List.mem_singleton.mp hcall]
    simp [accounts]

variable {process : Process}

/-- A task whose events are charged to the accounts of some results is not refused, and the results
are accounted for afterwards. -/
theorem keeps_run {α : Type} (h : Keeps (charged process.returned) process.state)
    {task : Task α} {value : α} (hanswer : task.answer = .ok value)
    {more : List (List FlowResult)}
    (hevents : (task.events.filterMap Event.account?).Perm (more.flatMap charge)) :
    (task.run process.state).answer = .ok value ∧
      Keeps (charged (process.returned ++ more)) (task.run process.state).state := by
  have hcharged : ∀ account ∈ task.events.filterMap Event.account?, account ∈ accounts := by
    intro account haccount
    obtain ⟨results, -, hresults⟩ := List.mem_flatMap.mp (hevents.mem_iff.mp haccount)
    exact charge_subset results account hresults
  obtain ⟨hok, hkeeps⟩ := h.observe hcharged
  rw [Task.run_of_observe_ok hok]
  refine ⟨hanswer, hkeeps.congr fun account _ => ?_⟩
  rw [charged_append, hevents.count_eq]

/-- What one act preserves: the results that were returned are in the accounts, and calls return
what they come to without telemetry. -/
theorem keeps_perform (h : Keeps (charged process.returned) process.state) {act : Act}
    (hspares : act.Spares)
    (hwanted : ∀ settings, act = .configure settings →
      ∀ telemetry ∈ (process.perform act).state.telemetry?, telemetry.settings.metrics = true) :
    (process.perform act).returned = process.returned ++ act.results ∧
      Keeps (charged (process.returned ++ act.results)) (process.perform act).state := by
  have hsame : ∀ {state : TelemetryState}, Keeps (charged process.returned) state →
      Keeps (charged (process.returned ++ [])) state := by
    intro state hkeeps
    rwa [List.append_nil]
  cases act with
  | configure settings =>
    exact ⟨(List.append_nil _).symm, hsame (h.configure (hwanted settings rfl))⟩
  | record name value given =>
    exact ⟨(List.append_nil _).symm, hsame (h.recordValue hspares given)⟩
  | timer name => exact ⟨(List.append_nil _).symm, hsame (h.timer hspares)⟩
  | span name given => exact ⟨(List.append_nil _).symm, hsame (h.span name given)⟩
  | log note => exact ⟨(List.append_nil _).symm, hsame h⟩
  | returned function name options result =>
    exact ⟨(List.append_nil _).symm, hsame (h.returned hspares)⟩
  | collect => exact ⟨(List.append_nil _).symm, hsame h.collect⟩
  | generateAll settings index outages turns entries =>
    obtain ⟨hevents, hanswer⟩ := allTask_granted settings index outages turns entries
    have hcharge := (hevents.filterMap Event.account?).trans
      (accounts_generateAll settings index outages entries)
    rw [← List.flatMap_singleton charge] at hcharge
    obtain ⟨hok, hkeeps⟩ := keeps_run h hanswer hcharge
    rw [perform, hok]
    exact ⟨rfl, hkeeps⟩
  | run settings room disk outages turns root =>
    obtain ⟨hevents, hanswer⟩ := runTask_granted settings outages turns room disk root
    have hcharge := (hevents.filterMap Event.account?).trans
      (accounts_run settings outages room disk root)
    obtain ⟨hok, hkeeps⟩ := keeps_run h hanswer hcharge
    rw [perform, hok]
    exact ⟨rfl, hkeeps⟩

/-- What a whole process preserves. -/
theorem keeps_after (acts : List Act) (hspares : ∀ act ∈ acts, act.Spares)
    (hwanted : ∀ earlier, earlier <+: acts → ∀ telemetry ∈ (after earlier).state.telemetry?,
      telemetry.settings.metrics = true) :
    (after acts).returned = acts.flatMap Act.results ∧
      Keeps (charged (after acts).returned) (after acts).state := by
  induction acts using List.reverseRecOn with
  | nil => exact ⟨rfl, fun _ _ => rfl⟩
  | append_singleton acts act ih =>
    obtain ⟨hacts, hact⟩ := List.forall_mem_append.mp hspares
    obtain ⟨hreturned, hkeeps⟩ := ih hacts fun earlier hearlier =>
      hwanted earlier (hearlier.trans (List.prefix_append acts [act]))
    have hlast := hwanted _ (List.prefix_refl (acts ++ [act]))
    rw [after_concat] at hlast ⊢
    obtain ⟨hnext, hnextKeeps⟩ :=
      keeps_perform hkeeps (hact act (List.mem_singleton_self act)) fun _ _ => hlast
    rw [hnext]
    exact ⟨by rw [hreturned, List.flatMap_append, List.flatMap_singleton], hnextKeeps⟩

/-- Metrics are wanted throughout if nobody asks for telemetry without them. -/
theorem wanted_after {acts : List Act} (hspares : ∀ act ∈ acts, act.Spares)
    (hchosen : ∀ chosen, Act.configure (some chosen) ∈ acts → chosen.metrics = true) :
    ∀ earlier, earlier <+: acts → ∀ telemetry ∈ (after earlier).state.telemetry?,
      telemetry.settings.metrics = true := by
  induction acts using List.reverseRecOn with
  | nil =>
    intro earlier hearlier
    rw [List.prefix_nil.mp hearlier]
    exact fun _ htelemetry => nomatch htelemetry
  | append_singleton acts act ih =>
    obtain ⟨hacts, hact⟩ := List.forall_mem_append.mp hspares
    have hwanted := ih hacts fun chosen hmem => hchosen chosen (List.mem_append_left _ hmem)
    intro earlier hearlier
    rcases List.prefix_concat_iff.mp hearlier with rfl | hearlier
    · obtain ⟨-, hkeeps⟩ := keeps_after acts hacts hwanted
      rw [after_concat]
      have hconfigured : ∀ settings, act = .configure settings →
          ∀ telemetry ∈ ((after acts).perform act).state.telemetry?,
            telemetry.settings.metrics = true := by
        rintro settings rfl
        refine hkeeps.wanted_configure fun chosen hmem => hchosen chosen ?_
        rw [Option.mem_def.mp hmem]
        exact List.mem_append_right _ List.mem_cons_self
      exact (keeps_perform hkeeps (hact act (List.mem_singleton_self act)) hconfigured).2.wanted
    · exact hwanted earlier hearlier

end Process

/-! ## The balance -/

/-- The number of flows that were drawn. -/
def completedIn (returned : List (List FlowResult)) : Nat :=
  returned.flatten.countP (·.isSuccess)

/-- The number of flows that have failed. -/
def failedIn (returned : List (List FlowResult)) : Nat :=
  returned.flatten.countP (·.isFailure)

/-- Metrics that account for the results of calls: two sums for the flows that were drawn and for
those that have failed, and the numbers of two durations for the flows and for the calls. -/
structure Balanced (returned : List (List FlowResult)) (points : MetricIdentity → List Point) :
    Prop where
  generated : sumOf (points flowsGenerated) = .whole (completedIn returned)
  failed : sumOf (points flowsFailed) = .whole (failedIn returned)
  flows : countOf (points flowTimes) = completedIn returned + failedIn returned
  calls : countOf (points callTimes) = returned.length

namespace Process

/-- How often the result of a flow is in each account. -/
theorem count_accounts (result : FlowResult) :
    result.accounts.count flowsGenerated = (if result.isSuccess then 1 else 0) ∧
      result.accounts.count flowsFailed = (if result.isFailure then 1 else 0) ∧
      result.accounts.count flowTimes =
        (if result.isSuccess then 1 else 0) + (if result.isFailure then 1 else 0) ∧
      result.accounts.count callTimes = 0 := by
  rw [FlowResult.accounts]
  cases result.isSuccess <;> cases result.isFailure <;> decide

theorem count_flatMap_accounts (results : List FlowResult) :
    (results.flatMap FlowResult.accounts).count flowsGenerated = results.countP (·.isSuccess) ∧
      (results.flatMap FlowResult.accounts).count flowsFailed = results.countP (·.isFailure) ∧
      (results.flatMap FlowResult.accounts).count flowTimes =
        results.countP (·.isSuccess) + results.countP (·.isFailure) ∧
      (results.flatMap FlowResult.accounts).count callTimes = 0 := by
  induction results with
  | nil => decide
  | cons result results ih =>
    obtain ⟨hgenerated, hfailed, htimes, hcalls⟩ := ih
    obtain ⟨hone, hother, htime, hnone⟩ := count_accounts result
    simp only [List.flatMap_cons, List.count_append, List.countP_cons]
    omega

/-- How often the results of calls are in each account, all together. -/
theorem charged_eq (returned : List (List FlowResult)) :
    charged returned flowsGenerated = completedIn returned ∧
      charged returned flowsFailed = failedIn returned ∧
      charged returned flowTimes = completedIn returned + failedIn returned ∧
      charged returned callTimes = returned.length := by
  have hcall : [callTimes].count flowsGenerated = 0 ∧ [callTimes].count flowsFailed = 0 ∧
      [callTimes].count flowTimes = 0 ∧ [callTimes].count callTimes = 1 := by decide
  induction returned with
  | nil => exact ⟨rfl, rfl, rfl, rfl⟩
  | cons results returned ih =>
    obtain ⟨hgenerated, hfailed, htimes, hcalls⟩ := count_flatMap_accounts results
    simp only [charged, completedIn, failedIn, charge, List.flatMap_cons, List.count_append,
      List.flatten_cons, List.countP_append, List.length_cons] at ih ⊢
    omega

/-- Accounts that hold what the results of calls are charged to account for them. -/
theorem balanced_of_holds {returned : List (List FlowResult)}
    {points : MetricIdentity → List Point}
    (h : ∀ account ∈ accounts, Holds account.kind (charged returned account) (points account)) :
    Balanced returned fun account => (points account).map Point.collect := by
  obtain ⟨hgenerated, hfailed, htimes, hcalls⟩ := charged_eq returned
  refine ⟨?_, ?_, ?_, ?_⟩
  · rw [← hgenerated]
    exact (h flowsGenerated (by simp [accounts])).totals.2
  · rw [← hfailed]
    exact (h flowsFailed (by simp [accounts])).totals.2
  · rw [← htimes]
    exact (h flowTimes (by simp [accounts])).totals.1
  · rw [← hcalls]
    exact (h callTimes (by simp [accounts])).totals.1

/-- How many flows are drawn, and how many outages strike. -/
theorem countP_generateAll (settings : FlowSettings) {index : FactIndex} (hkeyed : index.Keyed)
    (outages : Outages) (entries : List ClassFact) :
    (generateAll settings index outages (some entries)).1.countP (·.isSuccess) =
        entries.countP (fun fact => (outages.lookup fact.name).isNone) ∧
      (generateAll settings index outages (some entries)).1.countP (·.isFailure) =
        entries.countP (fun fact => (outages.lookup fact.name).isSome) := by
  have hperm : (generateAll settings index outages (some entries)).1.Perm
      (entries.map fun fact => (generateFlow settings index outages fact).1) := by
    rw [generateAll, selectEntries, Option.getD_some, List.map_map]
    exact List.mergeSort_perm _ _
  rw [hperm.countP_eq, hperm.countP_eq, List.countP_map, List.countP_map]
  constructor
  all_goals
    refine List.countP_congr fun fact _ => ?_
    simp only [Function.comp_apply, FlowResult.isSuccess, FlowResult.isFailure,
      status_generateFlow settings index outages fact hkeyed]
    cases outages.lookup fact.name <;> simp

/-- Telemetry has started once an amount is recorded, whatever becomes of it. -/
theorem isSome_telemetry?_record (state : TelemetryState) (name : Text)
    (amount : Amount) (given : Except String Attributes) :
    (Telemetry.record state name amount given).state.telemetry?.isSome = true := by
  have hamount (telemetry : Telemetry) (identity : MetricIdentity) :
      (telemetry.recordAmount identity amount given).state.telemetry?.isSome = true := by
    rw [Telemetry.recordAmount]
    dsimp only
    repeat' split
    all_goals rfl
  rw [Telemetry.record, Telemetry.withMetric]
  dsimp only
  split
  · rfl
  · split
    · rfl
    · exact hamount _ _

/-- A complaint and a permit are drawn, something else is recorded, and an outage strikes the
complaint when both are drawn again, by two workers of whom one is faster. -/
def complaintActs (settings : FlowSettings) : List Act :=
  let index := FactIndex.build permitAndComplaint []
  [.generateAll { settings with workers := 1 } index [] [] (some permitAndComplaint),
    .record "attempts" (.integer 1) (.ok []),
    .generateAll { settings with workers := 2 } index [("Complaint", .broken "out of memory")]
      [.work 1, .work 0, .work 1] (some permitAndComplaint)]

theorem orderly_complaintActs (settings : FlowSettings) : Orderly (complaintActs settings) := by
  have hspares : ∀ act ∈ complaintActs settings, act.Spares := by
    have hother : ¬IsReserved "attempts" := by
      rw [IsReserved]
      decide +kernel
    simp only [complaintActs, List.forall_mem_cons]
    exact ⟨trivial, fun hreserved => absurd hreserved hother, trivial, List.forall_mem_nil _⟩
  refine ⟨hspares, wanted_after hspares fun chosen hchosen => ?_,
    fun earlier act hprefix hpool => ?_⟩
  · simp [complaintActs] at hchosen
  · -- Only the last act has two workers, and telemetry has started with the first one.
    rcases earlier with _ | ⟨first, _ | ⟨second, rest⟩⟩
    all_goals simp only [complaintActs, List.nil_append, List.cons_append,
      List.cons_prefix_cons] at hprefix
    · obtain ⟨rfl, -⟩ := hprefix
      exact (Bool.false_ne_true hpool).elim
    · obtain ⟨-, rfl, -⟩ := hprefix
      exact hpool.elim
    · obtain ⟨rfl, rfl, hrest⟩ := hprefix
      obtain rfl : rest = [] := by
        have hlength := hrest.length_le
        rw [List.length_append, List.length_singleton, List.length_singleton] at hlength
        exact List.length_eq_zero_iff.mp (by omega)
      exact isSome_telemetry?_record _ _ _ _

/-- No flow is generated, and then a value is recorded under the name of an account with a blank in
front of it. -/
def marginActs (settings : FlowSettings) : List Act :=
  [.generateAll settings (FactIndex.build [] []) [] [] none,
    .record " generate_all_duration" (.decimal ⟨false, 5, -1⟩) (.ok [])]

/-- A negative number is refused under the name of an account, and then no flow is generated. -/
def refusalActs (settings : FlowSettings) : List Act :=
  [.record "generate_all_duration" (.integer (-1)) (.ok []),
    .generateAll settings (FactIndex.build [] []) [] [] none]

theorem wanted_of_inits {acts : List Act}
    (h : ∀ earlier ∈ acts.inits,
      (after earlier).state.telemetry?.all (·.settings.metrics) = true) :
    ∀ earlier, earlier <+: acts → ∀ telemetry ∈ (after earlier).state.telemetry?,
      telemetry.settings.metrics = true := by
  intro earlier hearlier telemetry htelemetry
  have hall := h earlier ((List.mem_inits _ _).mpr hearlier)
  rwa [Option.mem_def.mp htelemetry] at hall

end Process

end FlowDiagram
