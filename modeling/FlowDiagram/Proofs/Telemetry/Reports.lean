import FlowDiagram.Proofs.Telemetry.Accounts
import Mathlib.Data.List.Forall2

/-!
# What a report says about the accounts

A collection may be refused, for the sake of other metrics. If it is not, the report shows every
account with all its units, those that were recorded since the last collection included.

`Accounted.pointsOf_reports` is the main result.
-/

namespace FlowDiagram

/-! ## Metrics that were put in order -/

theorem pointsOf_perm {metrics others : List Metric} (hdistinct : Metric.AllDistinct metrics)
    (h : metrics.Perm others) (identity : MetricIdentity) :
    pointsOf others identity = pointsOf metrics identity := by
  have hothers : Metric.AllDistinct others := (h.map Metric.identity).nodup_iff.mp hdistinct
  by_cases hmem : identity ∈ metrics.map Metric.identity
  · obtain ⟨metric, hmetric, rfl⟩ := List.mem_map.mp hmem
    rw [pointsOf_of_mem hdistinct hmetric, pointsOf_of_mem hothers (h.mem_iff.mp hmetric)]
  · rw [pointsOf_of_not_mem hmem, pointsOf_of_not_mem]
    exact fun hother => hmem ((h.map Metric.identity).mem_iff.mpr hother)

/-! ## Reported metrics -/

/-- The order of points in a report. -/
def Point.before (a b : Point) : Except Attributes.Unordered Bool :=
  a.attributes.before b.attributes

/-- There is nothing to sort in an account. -/
theorem Holds.sortBy_eq {kind : MetricKind} {n : Nat} {points : List Point}
    (h : Holds kind n points) : sortBy Point.before points = .ok points := by
  cases h with
  | nothing => simp [sortBy, sortFrom, mergeAll]
  | units =>
    simp [sortBy, sortFrom, nextRun, splitRun, mergeDeeper, mergeAll, bind, Except.bind, pure,
      Except.pure]

theorem Metric.report_eq_ok {metric reported : Metric} (h : metric.report = .ok reported) :
    reported.identity = metric.identity ∧
      sortBy Point.before metric.points = .ok reported.points := by
  rw [Metric.report] at h
  split at h
  · exact nomatch h
  · split at h
    · rename_i points hpoints
      obtain rfl := Except.ok.inj h
      exact ⟨rfl, hpoints⟩
    · exact nomatch h

theorem forall₂_of_mapM_ok {α β ε : Type} {f : α → Except ε β} {items : List α} {results : List β}
    (h : items.mapM f = .ok results) :
    List.Forall₂ (fun item result => f item = .ok result) items results := by
  induction items generalizing results with
  | nil =>
    obtain rfl := Except.ok.inj h
    exact .nil
  | cons item items ih =>
    rw [List.mapM_cons] at h
    cases hitem : f item with
    | error e =>
      rw [hitem] at h
      exact nomatch h
    | ok result =>
      cases hitems : items.mapM f with
      | error e =>
        rw [hitem, hitems] at h
        exact nomatch h
      | ok rest =>
        rw [hitem, hitems] at h
        obtain rfl := Except.ok.inj h
        exact .cons hitem (ih hitems)

/-- Reported metrics have the identities of the metrics, and their points in order. -/
theorem reported_identity {metrics reported : List Metric}
    (h : List.Forall₂ (fun metric other => metric.report = .ok other) metrics reported) :
    reported.map Metric.identity = metrics.map Metric.identity := by
  induction h with
  | nil => rfl
  | cons hfirst _ ih => rw [List.map_cons, List.map_cons, (Metric.report_eq_ok hfirst).1, ih]

theorem sortBy_pointsOf {metrics reported : List Metric}
    (h : List.Forall₂ (fun metric other => metric.report = .ok other) metrics reported)
    (identity : MetricIdentity) :
    sortBy Point.before (pointsOf metrics identity) = .ok (pointsOf reported identity) := by
  induction h with
  | nil => exact (Holds.nothing : Holds .counter 0 []).sortBy_eq
  | cons hfirst _ ih =>
    obtain ⟨hidentity, hpoints⟩ := Metric.report_eq_ok hfirst
    rw [pointsOf_cons, pointsOf_cons, hidentity]
    split
    · exact hpoints
    · exact ih

/-! ## The accounts in a report -/

/-- If everything can be collected, every metric is. -/
theorem pointsOf_collectMetrics_of_all {metrics : List Metric}
    (h : metrics.all Metric.canCollect = true) (identity : MetricIdentity) :
    pointsOf (Telemetry.collectMetrics metrics) identity =
      Metric.collectPoints (pointsOf metrics identity) := by
  induction metrics with
  | nil => rfl
  | cons first rest ih =>
    rw [List.all_cons, Bool.and_eq_true] at h
    have hkept : first.collect.identity = first.identity := rfl
    rw [Telemetry.collectMetrics, if_pos h.1, pointsOf_cons, pointsOf_cons, hkept, ih h.2]
    split <;> rfl

theorem Holds.collectPoints_eq {kind : MetricKind} {n : Nat} {points : List Point}
    (h : Holds kind n points) : Metric.collectPoints points = points.map Point.collect := by
  cases h with
  | nothing => rfl
  | units _ hrecent htotal _ =>
    rw [Metric.collectPoints, if_pos (Holds.collect_units hrecent htotal).1, Metric.collectPoints]
    rfl

/-- A collection keeps the accounts. -/
theorem Accounted.collectMetrics {counts : MetricIdentity → Nat} {telemetry : Telemetry}
    (h : Accounted counts telemetry) :
    Accounted counts { telemetry with metrics := Telemetry.collectMetrics telemetry.metrics } := by
  refine h.withMetrics ?_ fun account haccount => ?_
  · rw [Metric.AllDistinct, Telemetry.identity_collectMetrics]
    exact h.distinct
  · have hheld := h.holds account haccount
    rcases Telemetry.pointsOf_collectMetrics telemetry.metrics account with heq | heq
    · rwa [heq]
    · rw [heq]
      exact hheld.collect.2

/-- What reports are: the reported metrics, in some order. -/
theorem Telemetry.exists_of_reports_ok {telemetry : Telemetry} {reports : List Metric}
    (h : telemetry.reports = .ok reports) :
    ∃ reported, List.Forall₂ (fun metric other => metric.report = .ok other)
      telemetry.metrics reported ∧ reported.Perm reports := by
  rw [Telemetry.reports] at h
  cases hmapM : telemetry.metrics.mapM Metric.report with
  | error e =>
    rw [hmapM] at h
    exact nomatch h
  | ok reported =>
    rw [hmapM] at h
    obtain rfl := Except.ok.inj h
    exact ⟨reported, forall₂_of_mapM_ok hmapM, (List.mergeSort_perm _ _).symm⟩

/-- A collection that answers has come to every metric. -/
theorem Telemetry.of_collect_ok {state : TelemetryState} {reports : List Metric}
    (h : (Telemetry.collect state).answer = .ok reports) :
    (current state).1.metrics.all Metric.canCollect = true ∧
      ({ (current state).1 with
        metrics := collectMetrics (current state).1.metrics } : Telemetry).reports =
          .ok reports := by
  rw [Telemetry.collect] at h
  dsimp only at h
  split at h
  · rename_i hall
    refine ⟨hall, ?_⟩
    cases hreports : ({ (current state).1 with
        metrics := collectMetrics (current state).1.metrics } : Telemetry).reports with
    | error e =>
      rw [hreports] at h
      exact nomatch h
    | ok others =>
      rw [hreports] at h
      exact congrArg Except.ok (Except.ok.inj h)
  · exact nomatch h

/-- A report shows what every account holds, collected. -/
theorem Accounted.pointsOf_reports {counts : MetricIdentity → Nat} {state : TelemetryState}
    (h : Accounted counts (Telemetry.current state).1) {reports : List Metric}
    (hreports : (Telemetry.collect state).answer = .ok reports) {account : MetricIdentity}
    (haccount : account ∈ accounts) :
    pointsOf reports account =
      (pointsOf (Telemetry.current state).1.metrics account).map Point.collect := by
  obtain ⟨hall, hreports⟩ := Telemetry.of_collect_ok hreports
  obtain ⟨reported, hreported, hperm⟩ := Telemetry.exists_of_reports_ok hreports
  have hdistinct : Metric.AllDistinct reported := by
    rw [Metric.AllDistinct, reported_identity hreported]
    exact h.collectMetrics.distinct
  have hsorted := sortBy_pointsOf hreported account
  rw [(h.collectMetrics.holds account haccount).sortBy_eq] at hsorted
  calc pointsOf reports account
      = pointsOf reported account := pointsOf_perm hdistinct hperm account
    _ = pointsOf (Telemetry.collectMetrics (Telemetry.current state).1.metrics) account :=
        (Except.ok.inj hsorted).symm
    _ = Metric.collectPoints (pointsOf (Telemetry.current state).1.metrics account) :=
        pointsOf_collectMetrics_of_all hall account
    _ = _ := (h.holds account haccount).collectPoints_eq

end FlowDiagram
