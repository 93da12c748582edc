import FlowDiagram.Telemetry.State

/-!
# Metrics that count

A counter that only ever goes up by one, and a histogram of durations that count as nothing, hold
nothing but how often they were recorded. Such a metric takes every further unit, and collecting it
changes none of its numbers, only where they stand.

## Main definitions

* `MetricKind.unitAmount`: what is recorded each time.
* `MetricKind.Sums`: the sums that so many units have.
* `Holds`: points that hold so many units.
* `pointsOf`: the points of a metric among others.
-/

namespace FlowDiagram

/-! ## Sums of units -/

namespace MetricKind

/-- What is recorded when something is counted, or when its duration is. -/
def unitAmount : MetricKind → Amount
  | .counter => .whole 1
  | .histogram => .fraction 0

/-- The sums that so many units have. -/
def Sums : MetricKind → Nat → Amount → Prop
  | .counter, n, sum => sum = .whole n
  | .histogram, _, sum => sum = .whole 0 ∨ sum = .fraction 0

theorem sums_zero (kind : MetricKind) : kind.Sums 0 .zero := by
  cases kind with
  | counter => rfl
  | histogram => exact Or.inl rfl

theorem sums_unitAmount (kind : MetricKind) : kind.Sums 1 kind.unitAmount := by
  cases kind with
  | counter => rfl
  | histogram => exact Or.inr rfl

/-- A duration of nothing stays nothing, whatever kind of nothing it is added to. -/
theorem add_nothing {a : Amount} (h : a = .whole 0 ∨ a = .fraction 0) :
    Amount.addFractions a.toFraction (.fraction 0) = .fraction 0 := by
  have hfraction : a.toFraction = .fraction 0 := by
    rcases h with rfl | rfl
    · decide
    · rfl
  rw [hfraction]
  change Amount.ofRat (0 + 0) = .fraction 0
  rw [Rat.add_zero]
  decide

/-- Units can always be added up. -/
theorem Sums.add {kind : MetricKind} {m n : Nat} {a b : Amount} (ha : kind.Sums m a)
    (hb : kind.Sums n b) : a.canAdd b = true ∧ kind.Sums (m + n) (a.add b) := by
  cases kind with
  | counter =>
    subst ha hb
    exact ⟨rfl, congrArg Amount.whole (Int.natCast_add m n).symm⟩
  | histogram =>
    rcases ha with rfl | rfl <;> rcases hb with rfl | rfl
    · exact ⟨rfl, Or.inl rfl⟩
    · exact ⟨by decide, Or.inr (add_nothing (Or.inl rfl))⟩
    · exact ⟨by decide, Or.inr (add_nothing (Or.inr rfl))⟩
    · exact ⟨by decide, Or.inr (add_nothing (Or.inr rfl))⟩

/-- A unit is an amount that every metric takes. -/
theorem refusal?_unitAmount (kind : MetricKind) (identity : MetricIdentity) :
    kind.unitAmount.isTooLarge = false ∧
      Telemetry.refusal? identity kind.unitAmount = none := by
  cases kind with
  | counter => exact ⟨by decide, rfl⟩
  | histogram => exact ⟨rfl, rfl⟩

end MetricKind

/-! ## Points -/

/-- A tally of nothing but units. -/
def Tally.OfUnits (kind : MetricKind) (tally : Tally) : Prop :=
  kind.Sums tally.count tally.sum

/-- Points that hold so many units without attributes: none, or a single one. -/
inductive Holds (kind : MetricKind) : Nat → List Point → Prop
  /-- Nothing was recorded. -/
  | nothing : Holds kind 0 []
  /-- All units are in one point. -/
  | units {n : Nat} {point : Point} (hattributes : point.attributes = [])
      (hrecent : point.recent.OfUnits kind) (htotal : point.total.OfUnits kind)
      (hcount : point.recent.count + point.total.count = n) : Holds kind n [point]

/-- The number of amounts in some points, as a report shows it. -/
def countOf (points : List Point) : Nat :=
  (points.map (·.total.count)).foldl Nat.add 0

/-- The sum of some points, as a report shows it. -/
def sumOf (points : List Point) : Amount :=
  (points.map (·.total.sum)).foldl Amount.add .zero

namespace Holds

variable {kind : MetricKind} {n : Nat} {points : List Point}

/-- One more unit can be recorded. -/
theorem record {metric : Metric} (h : Holds kind n metric.points) :
    metric.canRecord [] kind.unitAmount = true ∧
      Holds kind (n + 1) (metric.record [] kind.unitAmount).points := by
  have hunit := kind.sums_unitAmount
  obtain ⟨name, metricKind, points⟩ := metric
  cases h with
  | nothing =>
    refine ⟨rfl, .units rfl ?_ kind.sums_zero rfl⟩
    exact (kind.sums_zero.add hunit).2
  | @units _ point hattributes hrecent htotal hcount =>
    have hsame : point.attributes.same [] = true := by rw [hattributes]; decide
    obtain ⟨hcan, hsum⟩ := MetricKind.Sums.add hrecent hunit
    constructor
    · simp [Metric.canRecord, hcan]
    · have hpoints : Metric.recordAmong [] kind.unitAmount [point] =
          [point.record kind.unitAmount] := by
        rw [Metric.recordAmong, if_pos hsame]
      rw [Metric.record, hpoints]
      refine .units hattributes hsum htotal ?_
      simp only [Point.record, Tally.record]
      omega

/-- The point of a metric that only counts, after a collection. -/
theorem collect_units {point : Point} (hrecent : point.recent.OfUnits kind)
    (htotal : point.total.OfUnits kind) :
    point.canCollect = true ∧
      kind.Sums (point.recent.count + point.total.count) point.collect.total.sum := by
  obtain ⟨hcan, hsum⟩ := MetricKind.Sums.add hrecent htotal
  refine ⟨hcan, ?_⟩
  simp only [Point.collect, Tally.merge]
  rwa [if_pos hcan]

/-- A collection changes no number of units. -/
theorem collect (h : Holds kind n points) :
    points.all Point.canCollect = true ∧ Holds kind n (Metric.collectPoints points) := by
  cases h with
  | nothing => exact ⟨rfl, .nothing⟩
  | @units _ point hattributes hrecent htotal hcount =>
    obtain ⟨hcan, hsum⟩ := collect_units hrecent htotal
    constructor
    · simp [hcan]
    · rw [Metric.collectPoints, if_pos hcan, Metric.collectPoints]
      refine .units hattributes kind.sums_zero hsum ?_
      simp only [Point.collect, Tally.merge]
      omega

/-- What points show is what they hold, once they are collected. -/
theorem totals (h : Holds kind n points) :
    countOf (points.map Point.collect) = n ∧ kind.Sums n (sumOf (points.map Point.collect)) := by
  cases h with
  | nothing => exact ⟨rfl, kind.sums_zero⟩
  | @units _ point hattributes hrecent htotal hcount =>
    have hsum := (kind.sums_zero.add (collect_units hrecent htotal).2).2
    rw [Nat.zero_add, hcount] at hsum
    refine ⟨?_, hsum⟩
    rw [← hcount]
    exact Nat.zero_add _

end Holds

/-! ## Metrics among others -/

/-- The points of the metric with an identity. -/
def pointsOf (metrics : List Metric) (identity : MetricIdentity) : List Point :=
  ((metrics.find? (·.identity = identity)).map (·.points)).getD []

theorem pointsOf_cons (first : Metric) (rest : List Metric) (identity : MetricIdentity) :
    pointsOf (first :: rest) identity =
      if first.identity = identity then first.points else pointsOf rest identity := by
  by_cases hfound : first.identity = identity <;> simp [pointsOf, hfound]

theorem pointsOf_of_not_mem {metrics : List Metric} {identity : MetricIdentity}
    (h : identity ∉ metrics.map Metric.identity) : pointsOf metrics identity = [] := by
  induction metrics with
  | nil => rfl
  | cons first rest ih =>
    obtain ⟨hfirst, hrest⟩ := List.ne_and_not_mem_of_not_mem_cons h
    rw [pointsOf_cons, if_neg hfirst.symm]
    exact ih hrest

/-- Metrics have their identities for themselves. -/
def Metric.AllDistinct (metrics : List Metric) : Prop :=
  (metrics.map Metric.identity).Nodup

theorem pointsOf_of_mem {metrics : List Metric} (hdistinct : Metric.AllDistinct metrics)
    {metric : Metric} (h : metric ∈ metrics) :
    pointsOf metrics metric.identity = metric.points := by
  induction metrics with
  | nil => exact absurd h List.not_mem_nil
  | cons first rest ih =>
    obtain ⟨hfirst, hrest⟩ := List.nodup_cons.mp hdistinct
    rw [pointsOf_cons]
    rcases List.mem_cons.mp h with rfl | h
    · rw [if_pos rfl]
    · have hne : first.identity ≠ metric.identity := fun heq =>
        hfirst (heq ▸ List.mem_map_of_mem h)
      rw [if_neg hne]
      exact ih hrest h

theorem points_metricFor (telemetry : Telemetry) (identity : MetricIdentity) :
    (telemetry.metricFor identity).points = pointsOf telemetry.metrics identity := by
  rw [Telemetry.metricFor, pointsOf]
  cases telemetry.metrics.find? (·.identity = identity) <;> rfl

theorem identity_metricFor (telemetry : Telemetry) (identity : MetricIdentity) :
    (telemetry.metricFor identity).identity = identity := by
  rw [Telemetry.metricFor]
  cases hfind : telemetry.metrics.find? (·.identity = identity) with
  | none => rfl
  | some metric => simpa using List.find?_some hfind

namespace Telemetry

/-- The metric that was put among others is found, and the others are found as before. -/
theorem pointsOf_putMetric (metric : Metric) (metrics : List Metric) (identity : MetricIdentity) :
    pointsOf (putMetric metric metrics) identity =
      if metric.identity = identity then metric.points else pointsOf metrics identity := by
  induction metrics with
  | nil => rw [putMetric, pointsOf_cons]
  | cons first rest ih =>
    rw [putMetric, pointsOf_cons]
    by_cases hfirst : first.identity = metric.identity
    · rw [if_pos hfirst, pointsOf_cons, hfirst]
      by_cases hsame : metric.identity = identity <;> simp [hsame]
    · rw [if_neg hfirst, pointsOf_cons, ih]
      by_cases hfound : first.identity = identity
      · rw [if_pos hfound, if_pos hfound, if_neg fun heq => hfirst (hfound.trans heq.symm)]
      · rw [if_neg hfound, if_neg hfound]

theorem mem_putMetric {metric : Metric} {metrics : List Metric} {identity : MetricIdentity}
    (h : identity ∈ (putMetric metric metrics).map Metric.identity) :
    identity = metric.identity ∨ identity ∈ metrics.map Metric.identity := by
  induction metrics with
  | nil => exact Or.inl (by simpa [putMetric] using h)
  | cons first rest ih =>
    rw [putMetric] at h
    by_cases hfirst : first.identity = metric.identity
    · rw [if_pos hfirst, List.map_cons, List.mem_cons] at h
      exact h.imp_right (List.mem_cons_of_mem _)
    · rw [if_neg hfirst, List.map_cons, List.mem_cons] at h
      rcases h with rfl | h
      · exact Or.inr List.mem_cons_self
      · exact (ih h).imp_right (List.mem_cons_of_mem _)

theorem distinct_putMetric {metric : Metric} {metrics : List Metric}
    (h : Metric.AllDistinct metrics) : Metric.AllDistinct (putMetric metric metrics) := by
  induction metrics with
  | nil => exact List.nodup_cons.mpr ⟨List.not_mem_nil, List.nodup_nil⟩
  | cons first rest ih =>
    obtain ⟨hfirst, hrest⟩ := List.nodup_cons.mp h
    rw [putMetric]
    by_cases hsame : first.identity = metric.identity
    · rw [if_pos hsame]
      exact List.nodup_cons.mpr ⟨hsame ▸ hfirst, hrest⟩
    · rw [if_neg hsame]
      refine List.nodup_cons.mpr ⟨fun hmem => ?_, ih hrest⟩
      exact (mem_putMetric hmem).elim hsame hfirst

/-- A collection leaves the identities of metrics as they are. -/
theorem identity_collectMetrics (metrics : List Metric) :
    (collectMetrics metrics).map Metric.identity = metrics.map Metric.identity := by
  induction metrics with
  | nil => rfl
  | cons first rest ih =>
    rw [collectMetrics, List.map_cons, List.map_cons]
    split
    · rw [ih]
      rfl
    · rfl

/-- A collection has come to a metric, or was stopped before it. -/
theorem pointsOf_collectMetrics (metrics : List Metric) (identity : MetricIdentity) :
    pointsOf (collectMetrics metrics) identity = pointsOf metrics identity ∨
      pointsOf (collectMetrics metrics) identity =
        Metric.collectPoints (pointsOf metrics identity) := by
  induction metrics with
  | nil => exact Or.inl rfl
  | cons first rest ih =>
    have hkept : first.collect.identity = first.identity := rfl
    rw [collectMetrics, pointsOf_cons, pointsOf_cons, hkept]
    by_cases hfound : first.identity = identity
    · rw [if_pos hfound, if_pos hfound]
      exact Or.inr rfl
    · rw [if_neg hfound, if_neg hfound]
      split
      · exact ih
      · exact Or.inl rfl

end Telemetry

end FlowDiagram
