import FlowDiagram.Flow.Run
import FlowDiagram.Proofs.Fact.EntryPoints
import FlowDiagram.Proofs.Flow.Completion

/-!
# Failing flows

What strikes one flow from outside leaves the others as they are. The result of a struck flow holds
the wording of the failure and nothing of what was found out about the flow before. The results are
sorted by the names of the flows, so that the order in which they were generated cannot be seen.

## Main definitions

* `FlowResult.struckBy`: what a failure leaves of a result.
* `Outages.strike`: what some outages make of a result.

`generateAll_isolates` is the main result.
-/

namespace FlowDiagram

/-- What a failure leaves of the result of a flow: its name, its entry and the wording of the
failure. -/
def FlowResult.struckBy (result : FlowResult) (failure : DrawingFailure) : FlowResult :=
  { flow := result.flow
    entry := result.entry
    status := .failed
    dot := none
    output := none
    error := some failure.message
    warnings := []
    metrics := {} }

/-- What outages make of the result of a flow: nothing, unless one of them strikes the flow. -/
def Outages.strike (outages : Outages) (result : FlowResult) : FlowResult :=
  match outages.lookup result.flow with
  | none => result
  | some failure => result.struckBy failure

/-! ## One flow -/

section Generate

variable (settings : FlowSettings) (index : FactIndex) (outages : Outages) (fact : ClassFact)

theorem flow_generateFlow :
    (generateFlow settings index outages fact).1.flow = fact.name := by
  rw [generateFlow]
  dsimp only
  cases drawFlow settings index outages _ <;> rfl

/-- Whatever has been drawn is lost when a failure strikes. -/
theorem struckBy_ofDrawing (flow entry : Name) (analysis : FlowAnalysis)
    (drawing : Except DrawingFailure Text) (failure : DrawingFailure) :
    (FlowResult.ofDrawing flow entry analysis drawing).struckBy failure =
      .ofDrawing flow entry analysis (.error failure) := by
  cases drawing <;> rfl

/-- Outages change the result of a flow only if they strike this flow. -/
theorem generateFlow_eq_strike :
    (generateFlow settings index outages fact).1 =
      outages.strike (generateFlow settings index [] fact).1 := by
  rw [Outages.strike, flow_generateFlow, generateFlow, generateFlow]
  dsimp only
  rw [drawFlow, drawFlow, FlowAnalysis.flow]
  cases outages.lookup fact.name with
  | none => rfl
  | some failure => exact (struckBy_ofDrawing _ _ _ _ failure).symm

/-- A flow of any facts fails if an outage strikes it, and is completed otherwise. -/
theorem status_generateFlow (hkeyed : index.Keyed) :
    (generateFlow settings index outages fact).1.status =
      if (outages.lookup fact.name).isSome then .failed else .completed := by
  rw [generateFlow_eq_strike, Outages.strike, flow_generateFlow, generateFlow_eq hkeyed]
  cases outages.lookup fact.name <;> rfl

end Generate

/-! ## All flows -/

section GenerateAll

variable {index : FactIndex} (settings : FlowSettings) (outages : Outages)
  {supertype : Option Text} {entries : List ClassFact}

/-- The classes of an index can be passed in any order: their results come in the order of their
names. -/
theorem results_generateAll (hnamed : index.ClassesByName)
    (h : entries.Perm (index.entryPoints supertype)) :
    (generateAll settings index outages (some entries)).1 =
      (index.entryPoints supertype).map fun fact =>
        (generateFlow settings index outages fact).1 := by
  have hsorted : (entries.mergeSort fun a b => decide (a.name ≤ b.name)) =
      index.entryPoints supertype :=
    sort_eq_of_perm h (hnamed.pairwise_entryPoints supertype)
  calc (generateAll settings index outages (some entries)).1
      = sortResults (entries.map fun fact => (generateFlow settings index outages fact).1) := by
        rw [generateAll, selectEntries, Option.getD_some, List.map_map]
        rfl
    _ = (entries.mergeSort fun a b => decide (a.name ≤ b.name)).map fun fact =>
          (generateFlow settings index outages fact).1 := by
        refine (List.map_mergeSort fun a _ b _ => ?_).symm
        rw [flow_generateFlow, flow_generateFlow]
    _ = _ := by rw [hsorted]

theorem map_flow_generateAll (hnamed : index.ClassesByName)
    (h : entries.Perm (index.entryPoints supertype)) :
    (generateAll settings index outages (some entries)).1.map (·.flow) =
      (index.entryPoints supertype).map (·.name) := by
  rw [results_generateAll settings outages hnamed h, List.map_map]
  exact List.map_congr_left fun fact _ => flow_generateFlow settings index outages fact

/-- Outages strike the results of a run one by one. -/
theorem generateAll_eq_map_strike (hnamed : index.ClassesByName)
    (h : entries.Perm (index.entryPoints supertype)) :
    (generateAll settings index outages (some entries)).1 =
      (generateAll settings index [] (some entries)).1.map outages.strike := by
  rw [results_generateAll settings outages hnamed h, results_generateAll settings [] hnamed h,
    List.map_map]
  exact List.map_congr_left fun fact _ => generateFlow_eq_strike settings index outages fact

/-- Which results a run has: failed ones of the classes that are struck, and completed ones of the
others. -/
theorem exists_status_generateAll_iff (hkeyed : index.Keyed) (hnamed : index.ClassesByName)
    (h : entries.Perm (index.entryPoints supertype)) (status : FlowStatus) :
    (∃ result ∈ (generateAll settings index outages (some entries)).1, result.status = status) ↔
      ∃ fact ∈ entries,
        (if (outages.lookup fact.name).isSome then FlowStatus.failed else .completed) = status := by
  have hmem : ∀ fact, fact ∈ entries ↔ fact ∈ index.entryPoints supertype := fun _ => h.mem_iff
  simp only [results_generateAll settings outages hnamed h, hmem, List.mem_map,
    exists_exists_and_eq_and, status_generateFlow settings index outages _ hkeyed]

/-- No flow is left halfway. -/
theorem completed_or_failed (hkeyed : index.Keyed) (hnamed : index.ClassesByName)
    (h : entries.Perm (index.entryPoints supertype)) {result : FlowResult}
    (hresult : result ∈ (generateAll settings index outages (some entries)).1) :
    result.status = .completed ∨ result.status = .failed := by
  obtain ⟨fact, -, hfact⟩ := (exists_status_generateAll_iff settings outages hkeyed hnamed h
    result.status).mp ⟨result, hresult, rfl⟩
  rw [← hfact]
  split
  · exact Or.inr rfl
  · exact Or.inl rfl

end GenerateAll

/-! ## The summary of a run -/

namespace RunSummary

variable {summary : RunSummary}

/-- Where every flow was drawn or failed, the counts of both make up the total. -/
theorem total_eq_add
    (h : ∀ result ∈ summary.results, result.status = .completed ∨ result.status = .failed) :
    summary.counts.total = summary.counts.succeeded + summary.counts.failed := by
  have hfailed : summary.failed = summary.results.filter fun result => !result.isSuccess := by
    refine List.filter_congr fun result hresult => ?_
    rcases h result hresult with hstatus | hstatus <;>
      simp [FlowResult.isFailure, FlowResult.isSuccess, hstatus]
  simp only [counts, hfailed, succeeded]
  exact List.length_eq_length_filter_add _

theorem isFailed_iff :
    summary.isFailed = true ↔ ∃ result ∈ summary.results, result.status = .failed := by
  simp [isFailed, failed, FlowResult.isFailure]

end RunSummary

/-- Every entry class of an index has exactly one result, and the results come in the order of their
names, whatever the order of the classes. Flows that no outage strikes have the results that they
have without outages; a flow that is struck has failed with the wording of the failure, and has no
diagram, no warnings and no numbers. In the summary of the run every flow was drawn or has failed,
and the run has failed if a flow of it was struck. -/
theorem generateAll_isolates (settings : FlowSettings) (classes : List ClassFact)
    (processors : List ProcessorFact) (outages : Outages) (supertype : Option Text)
    (files : List Path) {entries : List ClassFact}
    (h : entries.Perm ((FactIndex.build classes processors).entryPoints supertype)) :
    let index := FactIndex.build classes processors
    let results := (generateAll settings index outages (some entries)).1
    let summary := RunSummary.ofResults ⟨index, files⟩ results
    (results.map (·.flow)).Perm (entries.map (·.name)) ∧
      (results.Pairwise fun a b => a.flow < b.flow) ∧
      results = (generateAll settings index outages (some (index.entryPoints supertype))).1 ∧
      results = (generateAll settings index [] (some entries)).1.map outages.strike ∧
      (∀ result ∈ summary.results, result.status ≠ .pending ∧ result.status ≠ .running) ∧
      summary.counts.total = summary.counts.succeeded + summary.counts.failed ∧
      (summary.isFailed = true ↔
        ∃ fact ∈ entries, (outages.lookup fact.name).isSome = true) := by
  intro index results summary
  have hkeyed : index.Keyed := FactIndex.keyed_build classes processors
  have hnamed : index.ClassesByName := FactIndex.classesByName_build classes processors
  have hflows : results.map (·.flow) = (index.entryPoints supertype).map (·.name) :=
    map_flow_generateAll settings outages hnamed h
  have hsettled : ∀ result ∈ results, result.status = .completed ∨ result.status = .failed :=
    fun _ => completed_or_failed settings outages hkeyed hnamed h
  refine ⟨?_, ?_, ?_, generateAll_eq_map_strike settings outages hnamed h,
    fun result hresult => ?_, RunSummary.total_eq_add hsettled, ?_⟩
  · rw [hflows]
    exact (h.map _).symm
  · refine List.pairwise_map.mp ?_
    rw [hflows]
    exact List.pairwise_map.mpr (hnamed.pairwise_entryPoints supertype)
  · exact (results_generateAll settings outages hnamed h).trans
      (results_generateAll settings outages hnamed (List.Perm.refl _)).symm
  · rcases hsettled result hresult with heq | heq <;> simp [heq]
  · rw [RunSummary.isFailed_iff]
    refine (exists_status_generateAll_iff settings outages hkeyed hnamed h .failed).trans ?_
    refine exists_congr fun fact => and_congr_right fun _ => ?_
    cases outages.lookup fact.name <;> simp

/-- A class whose flow has one activity. -/
def classStarting (name entry : Name) (h : name ≠ []) : ClassFact where
  name := name
  sourceLocation := none
  supertypeNames := []
  initialActivity := some entry
  name_ne_empty := h

/-- Two classes, passed in the order that is not the order of their names. -/
def permitAndComplaint : List ClassFact :=
  [classStarting "Permit" "Apply" (by decide), classStarting "Complaint" "Listen" (by decide)]

/-- The complaint fails and the permit is drawn. -/
theorem generateAll_isolates_complaint :
    let index := FactIndex.build permitAndComplaint []
    let outages : Outages := [("Complaint", .broken "out of memory")]
    let results := (generateAll {} index outages (some permitAndComplaint)).1
    permitAndComplaint.Perm (index.entryPoints none) ∧
      results = (generateAll {} index [] (some permitAndComplaint)).1.map outages.strike ∧
      (RunSummary.ofResults ⟨index, []⟩ results).isFailed = true := by
  intro index outages results
  have hperm : permitAndComplaint.Perm (index.entryPoints none) := (List.mergeSort_perm _ _).symm
  obtain ⟨-, -, -, hstrike, -, -, hfailed⟩ :=
    generateAll_isolates {} permitAndComplaint [] outages none [] hperm
  exact ⟨hperm, hstrike, hfailed.mpr (by decide)⟩

end FlowDiagram
