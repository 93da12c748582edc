import FlowDiagram.Sequence.Sorted
import FlowDiagram.Telemetry.Attributes
import FlowDiagram.Text.Edit
import FlowDiagram.Text.LowerCase

/-!
# Metrics

A metric adds up amounts, apart for every combination of attributes. Counters keep the sum;
histograms also keep the number of amounts and the extremes. The first amount under a name decides
which of the two it is.

Every point adds up in two stages: recorded amounts make a recent tally, and whenever metrics are
collected, the recent tally is added to the total and starts again from nothing. Fractions are
rounded after every addition, so the total depends on when it was collected.

## Main definitions

* `MetricKind.ofFirst`: the kind that a first amount asks for.
* `MetricIdentity`: what tells metrics apart.
* `Tally`, `Point`: amounts that were added up, recently and in total.
* `Metric.record`: a metric after one more amount.
* `Metric.collect`: a metric after one more collection.
* `Metric.report`: a metric as it is reported.
-/

namespace FlowDiagram

/-- The two kinds of metrics. -/
inductive MetricKind
  | counter
  | histogram
  deriving DecidableEq, Repr

namespace MetricKind

/-- The name of a kind. -/
def name : MetricKind → String
  | .counter => "counter"
  | .histogram => "histogram"

/-- The unit of the amounts of a kind. -/
def unit : MetricKind → String
  | .counter => "1"
  | .histogram => "ms"

/-- How a kind is called in messages. -/
def typeName : MetricKind → String
  | .counter => "Counter"
  | .histogram => "Histogram"

/-- What a kind does with an amount. -/
def operation : MetricKind → String
  | .counter => "Add"
  | .histogram => "Record"

/-- The kind that the first amount under a name asks for: totals and whole numbers are counted,
everything else is a measurement. -/
def ofFirst (name : Text) (isWhole : Bool) : MetricKind :=
  if (Text.ofString "_total").isSuffixOf name || isWhole then .counter else .histogram

end MetricKind

/-- What tells metrics apart: their names without margins and without regard to case, and their
kinds. -/
structure MetricIdentity where
  name : Text
  kind : MetricKind
  deriving DecidableEq, Repr

namespace MetricIdentity

/-- The metric that a name as it is written stands for, by a first amount. -/
def ofFirst (name : Text) (isWhole : Bool) : MetricIdentity :=
  { name := Text.lower (Text.trim name)
    kind := .ofFirst name isWhole }

/-- The text that identifies a metric. -/
def text (identity : MetricIdentity) : Text :=
  identity.name ++ s!",_{identity.kind.typeName},{identity.kind.unit},"

end MetricIdentity

/-- Amounts that were added up: how many they are, their sum and their extremes. -/
structure Tally where
  count : Nat := 0
  sum : Amount := .zero
  least : Amount := .infinity false
  greatest : Amount := .infinity true
  deriving DecidableEq, Repr

namespace Tally

/-- A tally after one more amount. -/
def record (tally : Tally) (amount : Amount) : Tally :=
  { count := tally.count + 1
    sum := tally.sum.add amount
    least := tally.least.least amount
    greatest := tally.greatest.greatest amount }

/-- A tally after the amounts of a more recent one. If the sums cannot be added, the old sum stays
while everything else counts. -/
def merge (total recent : Tally) : Tally :=
  { count := recent.count + total.count
    sum := if recent.sum.canAdd total.sum then recent.sum.add total.sum else total.sum
    least := recent.least.least total.least
    greatest := recent.greatest.greatest total.greatest }

end Tally

/-- The amounts recorded with one combination of attributes: those since the last collection, and
those before it. -/
structure Point where
  attributes : Attributes
  recent : Tally := {}
  total : Tally := {}

namespace Point

/-- The point after one more amount. -/
def record (point : Point) (amount : Amount) : Point :=
  { point with recent := point.recent.record amount }

/-- Whether the recent amounts can be added to the total. -/
def canCollect (point : Point) : Bool :=
  point.recent.sum.canAdd point.total.sum

/-- The point after one more collection. -/
def collect (point : Point) : Point :=
  { point with recent := {}, total := point.total.merge point.recent }

end Point

/-- A metric and its points. -/
structure Metric where
  name : Text
  kind : MetricKind
  points : List Point

namespace Metric

/-- What tells a metric apart. -/
def identity (metric : Metric) : MetricIdentity :=
  ⟨metric.name, metric.kind⟩

/-- Records an amount among points: in the one with its attributes, or in a new one. -/
def recordAmong (attributes : Attributes) (amount : Amount) : List Point → List Point
  | [] => [Point.record { attributes } amount]
  | point :: points =>
    if point.attributes.same attributes then point.record amount :: points
    else point :: recordAmong attributes amount points

/-- Whether one more amount can be added up. -/
def canRecord (metric : Metric) (attributes : Attributes) (amount : Amount) : Bool :=
  metric.points.all fun point =>
    !point.attributes.same attributes || point.recent.sum.canAdd amount

/-- The metric after one more amount. -/
def record (metric : Metric) (attributes : Attributes) (amount : Amount) : Metric :=
  { metric with points := recordAmong attributes amount metric.points }

/-- Collects points in their order, up to the first one whose amounts cannot be added up. -/
def collectPoints : List Point → List Point
  | [] => []
  | point :: points =>
    point.collect :: if point.canCollect then collectPoints points else points

/-- Whether all points can be collected. -/
def canCollect (metric : Metric) : Bool :=
  metric.points.all Point.canCollect

/-- The metric after one more collection. -/
def collect (metric : Metric) : Metric :=
  { metric with points := collectPoints metric.points }

/-- The longest name of a metric. -/
def longestName : Nat := 255

/-- Whether a character may stand in the name of a metric, past its first one. -/
def isNamePart (c : CodePoint) : Bool :=
  c.char?.any fun c => c.isAlphanum || c = '-' || c = '_' || c = '.' || c = '/'

/-- Whether a text can be the name of a metric. -/
def isName : Text → Bool
  | [] => false
  | c :: rest => c.char?.any Char.isAlpha && rest.all isNamePart && rest.length < longestName

/-- Whether a metric is about how long something took. -/
def isDuration (metric : Metric) : Bool :=
  (Text.ofString "_duration").isSuffixOf metric.name

/-- Whether the sums of a metric are part of a report about it: those of durations are not. -/
def showsSums (metric : Metric) : Bool :=
  !metric.isDuration || metric.kind = .counter

/-- Why a metric cannot be reported: a sum has grown beyond all numbers, or attributes have no
order. -/
inductive ReportFault
  | infiniteSum
  | unordered (values : Attributes.Unordered)
  deriving DecidableEq, Repr

/-- A metric as it is reported, with its points sorted by their attributes. -/
def report (metric : Metric) : Except ReportFault Metric :=
  if metric.showsSums && metric.points.any fun point => !point.total.sum.isFinite then
    .error .infiniteSum
  else
    match sortBy (fun a b : Point => a.attributes.before b.attributes) metric.points with
    | .ok points => .ok { metric with points }
    | .error values => .error (.unordered values)

end Metric

end FlowDiagram
