import FlowDiagram.Diagram.Routing

/-!
# Drawing options

What may be chosen about a diagram: which labels it shows, how parallel edges are summarised, and
the keywords that colour activities. The two thresholds for parallel edges are ordered, and both
are checked when options are made.

## Main definitions

* `DrawingOptions`: the options of a diagram.
* `DrawingOptions.withThresholds`: options with other thresholds, if they are admissible.
-/

namespace FlowDiagram

/-- Why thresholds are refused. -/
inductive ThresholdError
  | summaryTooSmall (summary : Int)
  | boldNotAbove (bold summary : Int)
  deriving DecidableEq, Repr

/-- The wording of a refusal. -/
def ThresholdError.message : ThresholdError → String
  | .summaryTooSmall summary => s!"summary_threshold must be >= 2 (got {summary})"
  | .boldNotAbove bold summary =>
    s!"bold_threshold ({bold}) must be greater than summary_threshold ({summary})"

/-- The options of a diagram. Labels are limited in length; parallel edges are summarised from
`summaryThreshold` on and drawn bold from `boldThreshold` on. -/
structure DrawingOptions where
  showConditions : Bool := false
  showLegend : Bool := false
  conditionMaxLength : Int := 80
  exampleMaxLength : Int := 40
  conditionPrefixes : List Text := ["behandling.", "krav."]
  nameTokens : List Text := ["Aktivitet"]
  routing : Routing := .straight
  deduplicate : Bool := true
  summaryThreshold : Int := 2
  boldThreshold : Int := 4
  showIterations : Bool := true
  highlightSupertype : Option Text := some "AldeAktivitet"
  waitingKeywords : List Text := ["Vent", "Wait"]
  manualKeywords : List Text := ["Manuell", "Oppgave"]
  abortKeywords : List Text := ["Avbryt", "Avslag"]
  decisionKeywords : List Text := ["Iverksett", "Vedtak"]
  two_le_summary : 2 ≤ summaryThreshold := by decide
  summary_lt_bold : summaryThreshold < boldThreshold := by decide
  deriving DecidableEq, Repr

namespace DrawingOptions

/-- The options that nobody has changed. -/
def standard : DrawingOptions := {}

/-- Options with other thresholds. A summary stands for at least two edges, and edges are drawn
bold only past the point where they are summarised. -/
def withThresholds (options : DrawingOptions) (summary bold : Int) :
    Except ThresholdError DrawingOptions :=
  if hs : 2 ≤ summary then
    if hb : summary < bold then
      .ok { options with
        summaryThreshold := summary
        boldThreshold := bold
        two_le_summary := hs
        summary_lt_bold := hb }
    else .error (.boldNotAbove bold summary)
  else .error (.summaryTooSmall summary)

end DrawingOptions

end FlowDiagram
