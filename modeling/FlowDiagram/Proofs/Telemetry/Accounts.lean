import FlowDiagram.Proofs.Telemetry.Tallies
import FlowDiagram.Telemetry.Call

/-!
# Accounts

Four metrics account for the flows that are generated: two counters and the numbers of two
durations. They are kept as long as nothing else is recorded under their names, in any spelling that
telemetry takes for the same name.

An attempt that is refused can do harm, too: a spelling that is no name spoils a metric that has not
been started, and the first attempt under a name decides of which kind the metric is.

## Main definitions

* `accounts`: the metrics that account for flows.
* `IsSpared`: what may be recorded without touching an account.
* `Accounted`, `Keeps`: telemetry that keeps accounts.
* `Event.account?`: the account that an event is charged to.

`Keeps.observe` says that events are charged to their accounts, and `Keeps.recordValue` that spared
amounts are not.
-/

namespace FlowDiagram

/-! ## The accounts -/

/-- The number of flows that were drawn. -/
def flowsGenerated : MetricIdentity := ⟨"flows_generated_total", .counter⟩

/-- The number of flows that have failed. -/
def flowsFailed : MetricIdentity := ⟨"flows_failed_total", .counter⟩

/-- The times that flows took. -/
def flowTimes : MetricIdentity := ⟨"flow_generation_duration", .histogram⟩

/-- The times that it took to generate all flows. -/
def callTimes : MetricIdentity := ⟨"generate_all_duration", .histogram⟩

/-- The metrics that account for flows. -/
def accounts : List MetricIdentity := [flowsGenerated, flowsFailed, flowTimes, callTimes]

/-- Whether a name is one of an account, in some spelling. -/
def IsReserved (name : Text) : Prop :=
  ∃ account ∈ accounts, Text.lower (Text.trim name) = account.name

/-- The name of an account can be used, and its units ask for the account. -/
theorem ofFirst_account : ∀ account ∈ accounts,
    Metric.isName account.name = true ∧
      MetricIdentity.ofFirst account.name account.kind.unitAmount.isWhole = account := by
  decide +kernel

theorem lower_trim_account {account : MetricIdentity} (h : account ∈ accounts) :
    Text.lower (Text.trim account.name) = account.name :=
  congrArg MetricIdentity.name (ofFirst_account account h).2

/-- A value that no metric takes: it is no number, or one that is refused. -/
def IsRefused : Option Amount → Prop
  | none => True
  | some amount => amount.isTooLarge = true ∨ amount.isFinite = false ∨ amount.isNegative = true

/-- Nothing is recorded of a refused amount. -/
theorem not_isRefused {identity : MetricIdentity} {amount : Amount}
    (hsmall : ¬amount.isTooLarge = true) (h : Telemetry.refusal? identity amount = none) :
    ¬IsRefused (some amount) := by
  rw [Telemetry.refusal?] at h
  rintro (hlarge | hinfinite | hnegative)
  · exact hsmall hlarge
  · simp [hinfinite] at h
  · split at h <;> exact Option.some_ne_none _ h

/-- What may be recorded under a name without touching an account: anything, if the name is not
reserved. Otherwise the value must be refused for itself, the spelling must be a name, and the
value must not ask for a metric of another kind under the very name of an account. -/
def IsSpared (name : Text) (value : Option Amount) : Prop :=
  IsReserved name →
    IsRefused value ∧ Metric.isName name = true ∧
      ∀ account ∈ accounts, name = account.name →
        MetricKind.ofFirst name (value.any (·.isWhole)) = account.kind

/-! ## Accounted accounts -/

/-- Telemetry that keeps the accounts: metrics are wanted, every account can be found by its name or
started, and it holds as many units as are counted. -/
structure Accounted (counts : MetricIdentity → Nat) (telemetry : Telemetry) : Prop where
  wanted : telemetry.settings.metrics = true
  unspoiled : ∀ account ∈ accounts, account ∉ telemetry.spoiled
  named : ∀ row ∈ telemetry.names, row.2.name = Text.lower (Text.trim row.1)
  own : ∀ account ∈ accounts, ∀ identity,
    telemetry.names.lookup account.name = some identity → identity = account
  distinct : Metric.AllDistinct telemetry.metrics
  holds : ∀ account ∈ accounts,
    Holds account.kind (counts account) (pointsOf telemetry.metrics account)

/-- A process that keeps the accounts. Before telemetry has started, they hold nothing. -/
def Keeps (counts : MetricIdentity → Nat) : TelemetryState → Prop
  | .unstarted _ => ∀ account ∈ accounts, counts account = 0
  | .started telemetry => Accounted counts telemetry

section

variable {counts : MetricIdentity → Nat} {telemetry : Telemetry} {state : TelemetryState}
  {name : Text} {isWhole : Bool}

theorem Keeps.congr {others : MetricIdentity → Nat} (h : Keeps counts state)
    (hcounts : ∀ account ∈ accounts, counts account = others account) : Keeps others state := by
  cases state with
  | unstarted log =>
    exact fun account haccount => (hcounts account haccount).symm.trans (h account haccount)
  | started telemetry =>
    obtain ⟨hwanted, hunspoiled, hnamed, hown, hdistinct, hholds⟩ := h
    exact ⟨hwanted, hunspoiled, hnamed, hown, hdistinct, fun account haccount =>
      hcounts account haccount ▸ hholds account haccount⟩

/-- Telemetry keeps the accounts from its start on, if metrics are wanted then. -/
theorem accounted_start {settings : TelemetrySettings} (hwanted : settings.metrics = true)
    (threshold : Level) (hcounts : ∀ account ∈ accounts, counts account = 0) :
    Accounted counts (Telemetry.start settings threshold).1 where
  wanted := hwanted
  unspoiled := fun _ _ => List.not_mem_nil
  named := fun _ hrow => absurd hrow List.not_mem_nil
  own := fun _ _ _ hlookup => absurd hlookup (by simp [Telemetry.start])
  distinct := List.nodup_nil
  holds := fun account haccount => by
    rw [hcounts account haccount]
    exact .nothing

theorem Keeps.current (h : Keeps counts state) : Accounted counts (Telemetry.current state).1 := by
  cases state with
  | unstarted log => exact accounted_start rfl .info h
  | started telemetry => exact h

/-- The accounts are in the metrics alone. -/
theorem Accounted.withMetrics (h : Accounted counts telemetry) {others : MetricIdentity → Nat}
    {metrics : List Metric} (hdistinct : Metric.AllDistinct metrics)
    (hholds : ∀ account ∈ accounts,
      Holds account.kind (others account) (pointsOf metrics account)) :
    Accounted others { telemetry with metrics } :=
  ⟨h.wanted, h.unspoiled, h.named, h.own, hdistinct, hholds⟩

/-! ## Looking for metrics -/

theorem mem_of_lookup {rows : List (Text × MetricIdentity)} {identity : MetricIdentity}
    (h : rows.lookup name = some identity) : (name, identity) ∈ rows := by
  obtain ⟨before, after, rfl, -⟩ := List.lookup_eq_some_iff.mp h
  exact List.mem_append_right _ List.mem_cons_self

/-- Looking for the metric of a name: it is found, it is spoiled, it is found or started now, or it
is spoiled now, as the name cannot be used. -/
theorem metricOf_cases (telemetry : Telemetry) (name : Text) (isWhole : Bool) :
    (∃ identity, telemetry.names.lookup name = some identity ∧
        telemetry.metricOf name isWhole = (telemetry, .ok identity)) ∨
      telemetry.names.lookup name = none ∧
        (MetricIdentity.ofFirst name isWhole ∈ telemetry.spoiled ∧
            telemetry.metricOf name isWhole =
              (telemetry, .error (.spoiledMetric (.ofFirst name isWhole))) ∨
          telemetry.metricOf name isWhole =
            ({ telemetry with
                names := telemetry.names ++ [(name, .ofFirst name isWhole)] },
              .ok (.ofFirst name isWhole)) ∨
          Metric.isName name = false ∧
            telemetry.metricOf name isWhole =
              ({ telemetry with spoiled := telemetry.spoiled ++ [.ofFirst name isWhole] },
                .error (.invalidMetricName name))) := by
  rw [Telemetry.metricOf]
  cases hlookup : telemetry.names.lookup name with
  | some identity => exact Or.inl ⟨identity, rfl, rfl⟩
  | none =>
    refine Or.inr ⟨rfl, ?_⟩
    dsimp only
    by_cases hspoiled : MetricIdentity.ofFirst name isWhole ∈ telemetry.spoiled
    · rw [if_pos (List.contains_iff_mem.mpr hspoiled)]
      exact Or.inl ⟨hspoiled, rfl⟩
    · rw [if_neg (by simpa using hspoiled)]
      split
      · exact Or.inr (Or.inl rfl)
      · rename_i hunusable
        rw [Bool.or_eq_true, not_or, Bool.not_eq_true] at hunusable
        exact Or.inr (Or.inr ⟨by simpa using hunusable.2, rfl⟩)

/-- Looking for a metric keeps the accounts, unless the name is a bad spelling of one or asks for a
metric of another kind. What is found has the name in its usual spelling. -/
theorem Accounted.metricOf (h : Accounted counts telemetry)
    (hname : IsReserved name → Metric.isName name = true)
    (hkind : ∀ account ∈ accounts, name = account.name →
      MetricKind.ofFirst name isWhole = account.kind) :
    Accounted counts (telemetry.metricOf name isWhole).1 ∧
      ∀ identity, (telemetry.metricOf name isWhole).2 = .ok identity →
        identity.name = Text.lower (Text.trim name) := by
  rcases metricOf_cases telemetry name isWhole with
    ⟨identity, hlookup, heq⟩ | ⟨hlookup, ⟨-, heq⟩ | heq | ⟨hbad, heq⟩⟩
  · rw [heq]
    refine ⟨h, fun other hother => ?_⟩
    obtain rfl := Except.ok.inj hother
    exact h.named _ (mem_of_lookup hlookup)
  · rw [heq]
    exact ⟨h, fun other hother => nomatch hother⟩
  · rw [heq]
    refine ⟨⟨h.wanted, h.unspoiled, ?_, ?_, h.distinct, h.holds⟩, fun other hother => ?_⟩
    · exact List.forall_mem_append.mpr ⟨h.named, List.forall_mem_singleton.mpr rfl⟩
    · intro account haccount identity hfound
      dsimp only at hfound
      rw [List.lookup_append] at hfound
      rcases Option.or_eq_some_iff.mp hfound with hfound | ⟨-, hfound⟩
      · exact h.own account haccount identity hfound
      · obtain ⟨rfl, rfl⟩ := Prod.mk.inj (List.mem_singleton.mp (mem_of_lookup hfound))
        rw [MetricIdentity.ofFirst, lower_trim_account haccount, hkind account haccount rfl]
    · obtain rfl := Except.ok.inj hother
      rfl
  · rw [heq]
    refine ⟨⟨h.wanted, ?_, h.named, h.own, h.distinct, h.holds⟩, fun other hother => nomatch hother⟩
    intro account haccount hspoiled
    rcases List.mem_append.mp hspoiled with hspoiled | hspoiled
    · exact h.unspoiled account haccount hspoiled
    · have hreserved : IsReserved name :=
        ⟨account, haccount, congrArg MetricIdentity.name (List.mem_singleton.mp hspoiled).symm⟩
      exact absurd (hname hreserved) (by simp [hbad])

/-- An account is found by its name. -/
theorem Accounted.metricOf_account (h : Accounted counts telemetry) {account : MetricIdentity}
    (haccount : account ∈ accounts) :
    Accounted counts (telemetry.metricOf account.name account.kind.unitAmount.isWhole).1 ∧
      (telemetry.metricOf account.name account.kind.unitAmount.isWhole).2 = .ok account := by
  obtain ⟨hname, hfirst⟩ := ofFirst_account account haccount
  constructor
  · refine (h.metricOf (fun _ => hname) fun other hother heq => ?_).1
    have hall : ∀ a ∈ accounts, ∀ b ∈ accounts, a.name = b.name → a = b := by
      decide +kernel
    obtain rfl := hall account haccount other hother heq
    exact congrArg MetricIdentity.kind hfirst
  · rcases metricOf_cases telemetry account.name account.kind.unitAmount.isWhole with
      ⟨identity, hlookup, heq⟩ | ⟨-, ⟨hspoiled, -⟩ | heq | ⟨hbad, -⟩⟩
    · rw [heq, h.own account haccount identity hlookup]
    · rw [hfirst] at hspoiled
      exact absurd hspoiled (h.unspoiled account haccount)
    · rw [heq, hfirst]
    · exact absurd hname (by simp [hbad])

/-! ## Recording amounts -/

/-- An account takes one more unit. -/
theorem Accounted.recordAmount_account (h : Accounted counts telemetry)
    {account : MetricIdentity} (haccount : account ∈ accounts) :
    (telemetry.recordAmount account account.kind.unitAmount (.ok [])).answer = .ok () ∧
      Keeps (fun other => counts other + [account].count other)
        (telemetry.recordAmount account account.kind.unitAmount (.ok [])).state := by
  obtain ⟨hsmall, hrefusal⟩ := account.kind.refusal?_unitAmount account
  have hheld := h.holds account haccount
  rw [← points_metricFor] at hheld
  obtain ⟨hcan, hrecorded⟩ := hheld.record
  have hidentity : ((telemetry.metricFor account).record [] account.kind.unitAmount).identity =
      account := identity_metricFor telemetry account
  have husable : Telemetry.usable (.ok []) = ([], []) := rfl
  rw [Telemetry.recordAmount, if_neg (Bool.eq_false_iff.mp hsmall), hrefusal, husable]
  dsimp only
  rw [if_pos hcan]
  refine ⟨rfl, h.withMetrics (Telemetry.distinct_putMetric h.distinct) fun other hother => ?_⟩
  rw [Telemetry.pointsOf_putMetric, hidentity, List.count_singleton]
  by_cases hsame : account = other
  · subst hsame
    simpa using hrecorded
  · simpa [hsame] using h.holds other hother

/-- What is recorded with another metric, or refused for itself, is in no account. -/
theorem Accounted.recordAmount_other (h : Accounted counts telemetry) {identity : MetricIdentity}
    {amount : Amount} (hspared : identity ∈ accounts → IsRefused (some amount))
    (given : Except String Attributes) :
    Keeps counts (telemetry.recordAmount identity amount given).state := by
  rw [Telemetry.recordAmount]
  split
  · exact h
  · rename_i hsmall
    cases hrefusal : Telemetry.refusal? identity amount with
    | some note => exact h
    | none =>
      have hother : identity ∉ accounts := fun haccount =>
        not_isRefused hsmall hrefusal (hspared haccount)
      dsimp only
      split
      · refine h.withMetrics (Telemetry.distinct_putMetric h.distinct) fun account haccount => ?_
        have hne : ((telemetry.metricFor identity).record (Telemetry.usable given).1
            amount).identity ≠ account := by
          rintro rfl
          rw [show ((telemetry.metricFor identity).record _ amount).identity = identity from
            identity_metricFor telemetry identity] at haccount
          exact hother haccount
        rw [Telemetry.pointsOf_putMetric, if_neg hne]
        exact h.holds account haccount
      · exact h

/-- Doing something with the metric of a spared name touches no account if the action does not. -/
theorem Keeps.withMetric (h : Keeps counts state)
    (hname : IsReserved name → Metric.isName name = true)
    (hkind : ∀ account ∈ accounts, name = account.name →
      MetricKind.ofFirst name isWhole = account.kind)
    {action : Telemetry → MetricIdentity → Observed Unit}
    (haction : ∀ telemetry identity, Accounted counts telemetry →
      identity.name = Text.lower (Text.trim name) →
        Keeps counts (action telemetry identity).state) :
    Keeps counts (Telemetry.withMetric state name isWhole action).state := by
  have hcurrent := h.current
  obtain ⟨hkept, hidentity⟩ := hcurrent.metricOf hname hkind
  rw [Telemetry.withMetric]
  dsimp only
  rw [hcurrent.wanted, Bool.not_true, if_neg Bool.false_ne_true]
  generalize (Telemetry.current state).1.metricOf name isWhole = found at *
  obtain ⟨telemetry, answer⟩ := found
  cases answer with
  | error e => exact hkept
  | ok identity => exact haction telemetry identity hkept (hidentity identity rfl)

/-- A spared amount is in no account. -/
theorem Keeps.record_spared (h : Keeps counts state) {amount : Amount}
    (hspared : IsSpared name (some amount)) (given : Except String Attributes) :
    Keeps counts (Telemetry.record state name amount given).state := by
  refine h.withMetric (fun hreserved => (hspared hreserved).2.1) ?_ ?_
  · intro account haccount heq
    exact (hspared ⟨account, haccount, heq ▸ lower_trim_account haccount⟩).2.2 account haccount heq
  · intro telemetry identity hkept hidentity
    exact hkept.recordAmount_other (fun haccount => (hspared ⟨identity, haccount,
      hidentity.symm⟩).1) given

/-- A spared value is in no account. -/
theorem Keeps.recordValue (h : Keeps counts state) {value : Json}
    (hspared : IsSpared name (Amount.ofJson? value)) (given : Except String Attributes) :
    Keeps counts (Telemetry.recordValue state name value given).state := by
  rw [Telemetry.recordValue]
  cases hamount : Amount.ofJson? value with
  | some amount => exact h.record_spared (hamount ▸ hspared) given
  | none =>
    rw [hamount] at hspared
    refine h.withMetric (fun hreserved => (hspared hreserved).2.1) ?_ fun _ _ hkept _ => hkept
    intro account haccount heq
    exact (hspared ⟨account, haccount, heq ▸ lower_trim_account haccount⟩).2.2 account haccount heq

/-- One more unit in an account. -/
theorem Keeps.record_account (h : Keeps counts state) {account : MetricIdentity}
    (haccount : account ∈ accounts) :
    (Telemetry.record state account.name account.kind.unitAmount (.ok [])).answer = .ok () ∧
      Keeps (fun other => counts other + [account].count other)
        (Telemetry.record state account.name account.kind.unitAmount (.ok [])).state := by
  have hcurrent := h.current
  obtain ⟨hkept, hfound⟩ := hcurrent.metricOf_account haccount
  rw [Telemetry.record, Telemetry.withMetric]
  dsimp only
  rw [hcurrent.wanted, Bool.not_true, if_neg Bool.false_ne_true]
  generalize (Telemetry.current state).1.metricOf account.name
    account.kind.unitAmount.isWhole = found at *
  obtain ⟨telemetry, answer⟩ := found
  obtain rfl : answer = .ok account := hfound
  exact hkept.recordAmount_account haccount

/-! ## Events -/

/-- The account that an event is charged to. -/
def Event.account? : Event → Option MetricIdentity
  | .note _ => none
  | .span => none
  | .count metric => some ⟨metric, .counter⟩
  | .duration name => some ⟨Telemetry.durationMetric name, .histogram⟩

theorem Keeps.observeOne (h : Keeps counts state) {event : Event}
    (hevent : ∀ account ∈ event.account?, account ∈ accounts) :
    (Telemetry.observeOne state event).answer = .ok () ∧
      Keeps (fun account => counts account + event.account?.toList.count account)
        (Telemetry.observeOne state event).state := by
  cases event with
  | note note => exact ⟨rfl, h⟩
  | span => exact ⟨rfl, h.current⟩
  | count metric => exact h.record_account (hevent _ rfl)
  | duration name => exact h.record_account (hevent _ rfl)

/-- Telemetry refuses no event that is charged to an account, and charges all of them. -/
theorem Keeps.observe {events : List Event} (h : Keeps counts state)
    (hevents : ∀ account ∈ events.filterMap Event.account?, account ∈ accounts) :
    (Telemetry.observe state events).answer = .ok () ∧
      Keeps (fun account => counts account + (events.filterMap Event.account?).count account)
        (Telemetry.observe state events).state := by
  induction events generalizing counts state with
  | nil => exact ⟨rfl, h⟩
  | cons event events ih =>
    have hsplit : (event :: events).filterMap Event.account? =
        event.account?.toList ++ events.filterMap Event.account? := by
      cases hcharge : event.account? <;> simp [hcharge]
    rw [hsplit] at hevents ⊢
    obtain ⟨hfirst, hrest⟩ := List.forall_mem_append.mp hevents
    obtain ⟨hok, hkeeps⟩ := h.observeOne fun account haccount =>
      hfirst account (Option.mem_toList.mpr haccount)
    obtain ⟨hallOk, hall⟩ := ih hkeeps hrest
    rw [Telemetry.observe, hok]
    refine ⟨hallOk, hall.congr fun account _ => ?_⟩
    rw [List.count_append]
    omega

end

end FlowDiagram
