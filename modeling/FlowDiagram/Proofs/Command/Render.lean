import FlowDiagram.Command.Program
import FlowDiagram.Proofs.Fact.ClassNames
import FlowDiagram.Proofs.Fact.Respelling
import FlowDiagram.Proofs.Flow.Isolation
import FlowDiagram.Proofs.Flow.Loading
import FlowDiagram.Proofs.Flow.Output
import Mathlib

/-!
# Rendering from the command line

A command line that asks for diagrams is answered in steps: settings are taken from the environment,
facts are loaded, flows are generated, files are written, and the run is reported. Each step can end
the command. The exit code is 0 only if none of them does, and if there are flows and all of them
were drawn; then each flow has its file. Nothing is written before the facts have been loaded.

## Main definitions

* `RenderRequest.AskedBy`: the command lines that ask for a run.
* `RenderRequest.Loads`: the settings and the facts of a run, if they can be used.
* `RenderRequest.selected`, `RenderRequest.writing`, `RenderRequest.reported`: what a run is made of
  then.

`runProgram_render` is the main result.
-/

namespace FlowDiagram

/-! ## Options and lines -/

theorem Arguments.mem_options_of_value? {ι : Type} [DecidableEq ι] {arguments : Arguments ι}
    {key : ι} {value : Text} (h : arguments.value? key = some value) :
    key ∈ arguments.options.map Prod.fst := by
  obtain ⟨option, hoption, -⟩ := Option.map_eq_some_iff.mp h
  have hkey := List.find?_some hoption
  rw [decide_eq_true_eq] at hkey
  exact List.mem_map.mpr ⟨option, List.mem_reverse.mp (List.mem_of_find?_eq_some hoption), hkey⟩

/-- If all lines can be printed, all of them are. -/
theorem CommandOutcome.say_of_printable {telemetry : TelemetryState} {outcome : CommandOutcome}
    {remarks : List Remark} (h : ∀ remark ∈ remarks, remark.fault? = none) :
    CommandOutcome.say telemetry outcome remarks =
      { outcome with
        stdout := outcome.stdout ++ remarks.flatMap Remark.output
        stderr := outcome.stderr ++ remarks.flatMap Remark.errorOutput
        lines := outcome.lines ++ remarks.flatMap (Remark.logged telemetry) } := by
  have hsaid : remarks.takeWhile (·.fault?.isNone) = remarks :=
    List.takeWhile_eq_self_iff.mpr fun remark hremark => by simp [h remark hremark]
  have hfault : remarks.findSome? Remark.fault? = none := List.findSome?_eq_none_iff.mpr h
  simp only [CommandOutcome.say, hsaid, hfault]

namespace RenderRequest

variable {disk : Disk}

theorem checkValue_of_checkOptions {arguments : Arguments RenderOption}
    {options : List RenderOption} (h : checkOptions disk arguments options = .ok ()) :
    ∀ option ∈ options,
      checkValue disk option ((arguments.value? option).getD []) = .ok () := by
  induction options with
  | nil => exact fun _ hoption => nomatch hoption
  | cons option options ih =>
    rw [checkOptions] at h
    split at h
    · cases h
    · rename_i hvalue
      exact List.forall_mem_cons.mpr ⟨hvalue, ih h⟩

/-- Diagrams are written in one of the formats. -/
theorem format_mem_of_ofArguments {arguments : Arguments RenderOption} {request : RenderRequest}
    (h : ofArguments disk arguments = .ok request) : request.format ∈ outputFormats := by
  unfold ofArguments at h
  split at h
  · cases h
  · rename_i hchecked
    cases hpath : readPath disk arguments.operands with
    | error => simp [hpath, Except.map] at h
    | ok path =>
      rw [hpath] at h
      cases h
      show (arguments.value? .format).getD "svg" ∈ outputFormats
      cases hformat : arguments.value? .format with
      | none => decide
      | some format =>
        have hvalue := checkValue_of_checkOptions hchecked .format
          (mem_distinct.mpr (Arguments.mem_options_of_value? hformat))
        simp only [hformat, Option.getD_some, checkValue, checkChoice] at hvalue
        split at hvalue
        · rename_i hmem
          exact List.contains_iff_mem.mp hmem
        · cases hvalue

/-! ## Runs -/

/-- A command line that is in order asks for a run: the program reads the name of the command, the
command its options and the path. -/
def AskedBy (request : RenderRequest) (disk : Disk) (arguments : List Text) : Prop :=
  ∃ (group : Arguments HelpOption) (rest : List Text) (read : Arguments RenderOption),
    Arguments.read HelpOption.specs false arguments = .ok group ∧ group.has .help = false ∧
      group.operands = Text.ofString "render" :: rest ∧
      Arguments.read RenderOption.specs true rest = .ok read ∧ read.has .help = false ∧
      ofArguments disk read = .ok request

/-- The environment is valid, the search for fact files ends, and each file that was found is
usable. -/
structure Loads (request : RenderRequest) (surroundings : Surroundings) (base : FlowSettings)
    (files : List (Path × FactFile)) : Prop where
  environment : FlowSettings.ofEnvironment surroundings.environment = .ok base
  found : discover surroundings.disk request.path (renderRoom - searchShare) =
    .ok (files.map Prod.fst)
  loaded : ∀ entry ∈ files, FactFile.load renderRoom surroundings.disk entry.1 = .ok entry.2

section Run

variable (request : RenderRequest) (surroundings : Surroundings) (base : FlowSettings)
  (files : List (Path × FactFile))

/-- The index of the facts in some files. -/
def indexOf (files : List (Path × FactFile)) : FactIndex :=
  .build (FactSet.ofFiles files).classes (FactSet.ofFiles files).processors

/-- The classes whose flows are generated. -/
def selected : List ClassFact :=
  (indexOf files).entryPoints (request.apply base).entrySupertype

/-- What comes of the flow of a class before anything is written. -/
def drawn (fact : ClassFact) : FlowResult :=
  (generateFlow (request.apply base) (indexOf files) surroundings.outages fact).1

/-- The summary of the run before anything is written. -/
def summary : RunSummary :=
  .ofResults ⟨indexOf files, files.map Prod.fst⟩
    ((request.selected base files).map (request.drawn surroundings base files))

/-- What comes of the writing. -/
def writing : Outputs :=
  writeOutputs (request.apply base) surroundings.renderer folderRoom surroundings.disk
    (request.summary surroundings base files)

/-- The summary that is reported. -/
def reported : RunSummary :=
  { request.summary surroundings base files with
    results := (request.writing surroundings base files).results }

end Run

variable {request : RenderRequest} {surroundings : Surroundings} {base : FlowSettings}
  {files : List (Path × FactFile)}

theorem runProgram_of_askedBy {arguments : List Text}
    (h : request.AskedBy surroundings.disk arguments) :
    runProgram surroundings arguments = renderCommand surroundings request := by
  obtain ⟨group, rest, read, hgroup, hhelp, hoperands, hread, hnohelp, hrequest⟩ := h
  have hname : (Command.all.find? fun command => Text.ofString "render" = command.name) =
      some .render := by decide
  have hsome : arguments.isEmpty = false := by
    cases arguments with
    | nil =>
      cases hgroup
      cases hoperands
    | cons => rfl
  simp only [runProgram, hsome, hgroup, hhelp, hoperands, hname, Command.run, runWith, hread,
    hnohelp, hrequest, Bool.false_eq_true, if_false]

theorem keyed_indexOf (files : List (Path × FactFile)) : (indexOf files).Keyed :=
  FactIndex.keyed_build _ _

theorem classesByName_indexOf (files : List (Path × FactFile)) : (indexOf files).ClassesByName :=
  FactIndex.classesByName_build _ _

theorem flow_drawn (fact : ClassFact) :
    (request.drawn surroundings base files fact).flow = fact.name :=
  flow_generateFlow _ _ _ fact

theorem status_drawn (fact : ClassFact) :
    (request.drawn surroundings base files fact).status =
      if (surroundings.outages.lookup fact.name).isSome then .failed else .completed :=
  status_generateFlow _ _ _ fact (keyed_indexOf files)

theorem format_mem_of_askedBy {arguments : List Text} (h : request.AskedBy disk arguments) :
    request.format ∈ outputFormats := by
  obtain ⟨-, -, read, -, -, -, -, -, hrequest⟩ := h
  exact format_mem_of_ofArguments hrequest

/-- The results of a run come in the order of their names. -/
theorem results_generateAll_none (settings : FlowSettings) (outages : Outages) :
    (generateAll settings (indexOf files) outages none).1 =
      ((indexOf files).entryPoints settings.entrySupertype).map fun fact =>
        (generateFlow settings (indexOf files) outages fact).1 :=
  results_generateAll settings outages (classesByName_indexOf files) (List.Perm.refl _)

/-- If the facts can be used, the run comes to the writing. -/
theorem renderCommand_of_loads (h : request.Loads surroundings base files) :
    ∃ telemetry lines, renderCommand surroundings request =
      finishRun surroundings request (request.apply base) telemetry lines
        (request.summary surroundings base files) := by
  have hloaded : (loadIndex renderRoom surroundings.disk request.path).answer =
      .ok ⟨indexOf files, files.map Prod.fst⟩ :=
    answer_loadIndex_eq_ok_iff.mpr ⟨files, h.found, h.loaded, rfl⟩
  have hran : (run (request.apply base) renderRoom surroundings.disk surroundings.outages
      request.path).answer = .ok (request.summary surroundings base files) := by
    simp only [run, hloaded, results_generateAll_none]
    rfl
  simp only [renderCommand, h.environment, hran]
  exact ⟨_, _, rfl⟩

/-- An error of the loading is all that the command answers. -/
theorem renderCommand_of_unloadable {error : LoadError}
    (hsettings : FlowSettings.ofEnvironment surroundings.environment = .ok base)
    (h : (loadIndex renderRoom surroundings.disk request.path).answer = .error error) :
    ∃ lines, renderCommand surroundings request =
      .notLoaded surroundings.disk lines error := by
  have hran : (run (request.apply base) renderRoom surroundings.disk surroundings.outages
      request.path).answer = .error error := by
    simp only [run, h]
  simp only [renderCommand, hsettings, hran]
  exact ⟨_, rfl⟩

/-- If the facts cannot be used, the command ends before the writing. -/
theorem renderCommand_of_not_loads (h : ∀ base files, ¬ request.Loads surroundings base files) :
    (renderCommand surroundings request).exitCode = 1 ∧
      (renderCommand surroundings request).disk = surroundings.disk := by
  cases hsettings : FlowSettings.ofEnvironment surroundings.environment with
  | error e =>
    simp only [renderCommand, hsettings]
    exact ⟨rfl, rfl⟩
  | ok base =>
    cases hloading : (loadIndex renderRoom surroundings.disk request.path).answer with
    | ok loaded =>
      obtain ⟨files, hfound, hloaded, -⟩ := answer_loadIndex_eq_ok_iff.mp hloading
      exact absurd ⟨hsettings, hfound, hloaded⟩ (h base files)
    | error e =>
      obtain ⟨lines, hstopped⟩ := renderCommand_of_unloadable hsettings hloading
      rw [hstopped]
      cases e <;> exact ⟨rfl, rfl⟩

/-! ## Reports -/

section Report

variable {telemetry : TelemetryState} {outputs : Outputs} {lines : List LogLine}
  {summary : RunSummary}

theorem disk_reportRun :
    (reportRun request telemetry outputs lines summary).disk = outputs.disk := by
  have hsay (remarks : List Remark) :
      (CommandOutcome.say telemetry { disk := outputs.disk, lines } remarks).disk =
        outputs.disk := by
    unfold CommandOutcome.say
    dsimp only
    split <;> rfl
  unfold reportRun
  dsimp only
  split
  · exact hsay _
  · exact hsay _

/-- A run that cannot be reported to the end has failed. -/
theorem exitCode_reportRun_of_unprintable
    (h : ¬ ∀ remark ∈ request.report summary, remark.fault? = none) :
    (reportRun request telemetry outputs lines summary).exitCode = 1 := by
  obtain ⟨fault, hfault⟩ :=
    Option.ne_none_iff_exists'.mp (mt List.findSome?_eq_none_iff.mp h)
  simp [reportRun, CommandOutcome.say, hfault]

theorem reportRun_of_printable
    (h : ∀ remark ∈ request.report summary, remark.fault? = none) :
    (reportRun request telemetry outputs lines summary).exitCode =
        (if summary.isFailed || summary.results.isEmpty then 1 else 0) ∧
      (reportRun request telemetry outputs lines summary).stdout =
        (request.report summary).flatMap Remark.output := by
  simp [reportRun, CommandOutcome.say_of_printable h]

theorem exitCode_reportRun_eq_zero_iff :
    (reportRun request telemetry outputs lines summary).exitCode = 0 ↔
      (∀ remark ∈ request.report summary, remark.fault? = none) ∧
        summary.isFailed = false ∧ summary.results ≠ [] := by
  by_cases hprint : ∀ remark ∈ request.report summary, remark.fault? = none
  · rw [(reportRun_of_printable hprint).1, and_iff_right hprint]
    simp
  · rw [exitCode_reportRun_of_unprintable hprint]
    simp [hprint]

end Report

/-! ## Writing -/

/-- A run whose writing has ended without an error is reported. -/
theorem finishRun_of_ok {telemetry : TelemetryState} {lines : List LogLine}
    (h : (request.writing surroundings base files).error = none) :
    ∃ telemetry' lines', finishRun surroundings request (request.apply base) telemetry lines
        (request.summary surroundings base files) =
      reportRun request telemetry' (request.writing surroundings base files) lines'
        (request.reported surroundings base files) := by
  unfold writing at h
  simp only [finishRun, h]
  exact ⟨_, _, rfl⟩

theorem exitCode_finishRun_of_error {telemetry : TelemetryState} {lines : List LogLine}
    {error : WriteError} (h : (request.writing surroundings base files).error = some error) :
    (finishRun surroundings request (request.apply base) telemetry lines
      (request.summary surroundings base files)).exitCode = 1 := by
  unfold writing at h
  simp only [finishRun, h]
  split <;> rfl

section Reported

variable (request surroundings base files)

/-- The flows that are reported are those that were drawn, and they have come as far. -/
theorem map_results_reported :
    (request.reported surroundings base files).results.map
        (fun result => (result.flow, result.status)) =
      (request.selected base files).map fun fact =>
        (fact.name, (request.drawn surroundings base files fact).status) := by
  refine (map_writeOutputs surroundings.renderer (request.apply base) folderRoom surroundings.disk
    (request.summary surroundings base files)).trans ?_
  show ((request.selected base files).map (request.drawn surroundings base files)).map _ = _
  rw [List.map_map]
  exact List.map_congr_left fun fact _ => by rw [Function.comp_apply, flow_drawn]

theorem map_flow_reported :
    (request.reported surroundings base files).results.map (·.flow) =
      (request.selected base files).map (·.name) := by
  have hpairs := congrArg (List.map Prod.fst) (map_results_reported request surroundings base files)
  simpa only [List.map_map, Function.comp_def] using hpairs

theorem map_status_reported :
    (request.reported surroundings base files).results.map (·.status) =
      (request.selected base files).map fun fact =>
        (request.drawn surroundings base files fact).status := by
  have hpairs := congrArg (List.map Prod.snd) (map_results_reported request surroundings base files)
  simpa only [List.map_map, Function.comp_def] using hpairs

theorem results_reported_eq_nil_iff :
    (request.reported surroundings base files).results = [] ↔
      request.selected base files = [] := by
  rw [← List.map_eq_nil_iff, map_flow_reported, List.map_eq_nil_iff]

theorem isFailed_reported_iff :
    (request.reported surroundings base files).isFailed = true ↔
      ∃ fact ∈ request.selected base files,
        (request.drawn surroundings base files fact).status = .failed := by
  rw [RunSummary.isFailed_iff, ← List.mem_map, map_status_reported, List.mem_map]

end Reported

/-- A run whose facts can be used succeeds if there are flows, all of them were drawn, and they
could be written and reported. -/
theorem exitCode_finishRun_eq_zero_iff {telemetry : TelemetryState} {lines : List LogLine} :
    (finishRun surroundings request (request.apply base) telemetry lines
        (request.summary surroundings base files)).exitCode = 0 ↔
      request.selected base files ≠ [] ∧
        (∀ fact ∈ request.selected base files,
          (request.drawn surroundings base files fact).status ≠ .failed) ∧
        (request.writing surroundings base files).error = none ∧
        ∀ remark ∈ request.report (request.reported surroundings base files),
          remark.fault? = none := by
  cases herror : (request.writing surroundings base files).error with
  | some error =>
    rw [exitCode_finishRun_of_error herror]
    simp
  | none =>
    obtain ⟨telemetry', lines', heq⟩ := finishRun_of_ok herror
    rw [heq, exitCode_reportRun_eq_zero_iff, Ne, results_reported_eq_nil_iff,
      ← Bool.not_eq_true, isFailed_reported_iff]
    simp only [not_exists, not_and]
    tauto

section Outputs

variable (hloads : request.Loads surroundings base files)
  (hnames : ∀ fact ∈ request.selected base files, CodePoint.char '/' ∉ fact.name)
  (hdone : ∀ fact ∈ request.selected base files,
    (request.drawn surroundings base files fact).status ≠ .failed)

include hloads in
/-- Classes of fact files have names without surrogates. -/
theorem whole_of_mem_selected {fact : ClassFact} (h : fact ∈ request.selected base files) :
    ∀ c ∈ fact.name, c.isSurrogate = false := by
  have hmem := FactIndex.mem_of_mem_entryPoints h
  rw [classes_ofFiles, List.mem_flatMap] at hmem
  obtain ⟨entry, hentry, hfact⟩ := hmem
  exact FactFile.whole_of_load (hloads.loaded entry hentry) hfact

include hloads hnames in
theorem isNamed_of_mem_summary {result : FlowResult}
    (h : result ∈ (request.summary surroundings base files).results) : result.IsNamed := by
  obtain ⟨fact, hfact, rfl⟩ := List.mem_map.mp h
  constructor <;> rw [flow_drawn]
  · exact hnames fact hfact
  · exact whole_of_mem_selected hloads hfact

include hdone in
theorem isSuccess_of_mem_summary {result : FlowResult}
    (h : result ∈ (request.summary surroundings base files).results) :
    result.isSuccess = true := by
  obtain ⟨fact, hfact, rfl⟩ := List.mem_map.mp h
  have hnot := hdone fact hfact
  rw [FlowResult.isSuccess, decide_eq_true_eq]
  rw [status_drawn] at hnot ⊢
  split at hnot
  · exact absurd rfl hnot
  · exact if_neg ‹_›

theorem nodup_flows_summary :
    ((request.summary surroundings base files).results.map (·.flow)).Nodup := by
  have hflows : (request.summary surroundings base files).results.map (·.flow) =
      (request.selected base files).map (·.name) := by
    show ((request.selected base files).map (request.drawn surroundings base files)).map _ = _
    rw [List.map_map]
    exact List.map_congr_left fun fact _ => flow_drawn fact
  rw [hflows]
  refine List.pairwise_map.mpr
    (((classesByName_indexOf files).pairwise_entryPoints _).imp fun hlt heq => ?_)
  exact Std.lt_irrefl (heq ▸ hlt)

include hloads hnames hdone in
/-- If the writing has ended without an error, there is one output for each class. -/
theorem exists_outputs_reported (hformat : request.format ∈ outputFormats)
    (herror : (request.writing surroundings base files).error = none) :
    ∃ paths : List Path, paths.Nodup ∧
      (request.reported surroundings base files).results.map (·.output) = paths.map some ∧
      ∀ path ∈ paths, path.parent = FlowDiagram.outputFolder (request.apply base) surroundings.disk ∧
        ∃ bytes, (request.writing surroundings base files).disk.find path = .ok (.file bytes) := by
  have hending : IsEnding (request.apply base).outputFormat := isEnding_of_mem hformat
  have hnamed : ∀ result ∈ (request.summary surroundings base files).results, result.IsNamed :=
    fun _ => isNamed_of_mem_summary hloads hnames
  have hwritten := writeOutputs_of_ok surroundings.renderer hending
    (fun result hresult => ⟨isSuccess_of_mem_summary hdone hresult, hnamed result hresult⟩)
    nodup_flows_summary herror
  obtain ⟨paths, hnodup, houtputs, -, hfound⟩ :=
    exists_outputs hending hwritten hnamed nodup_flows_summary
  exact ⟨paths, hnodup, houtputs, hfound⟩

end Outputs

end RenderRequest

/-- A command line that is in order ends with exit code 0 if and only if the environment is valid,
the search for fact files ends, each of them is usable, some class is selected, no flow of a
selected class has failed, the writing has ended without an error and each line of the report can be
printed. Then the report is printed, and it tells for each selected class an output: if the names of
the classes have no slashes, these are different files that are there in the output folder. If the
environment is not valid, the search does not end or some file cannot be used, the disk stays as it
was. -/
theorem runProgram_render {surroundings : Surroundings} {arguments : List Text}
    {request : RenderRequest} (hasked : request.AskedBy surroundings.disk arguments) :
    let outcome := runProgram surroundings arguments
    (outcome.exitCode = 0 ↔
      ∃ base files, request.Loads surroundings base files ∧ request.selected base files ≠ [] ∧
        (∀ fact ∈ request.selected base files,
          (request.drawn surroundings base files fact).status ≠ .failed) ∧
        (request.writing surroundings base files).error = none ∧
        ∀ remark ∈ request.report (request.reported surroundings base files),
          remark.fault? = none) ∧
    (∀ base files, request.Loads surroundings base files → outcome.exitCode = 0 →
      let reported := request.reported surroundings base files
      outcome.stdout = (request.report reported).flatMap Remark.output ∧
      reported.results.map (·.flow) = (request.selected base files).map (·.name) ∧
      ((∀ fact ∈ request.selected base files, CodePoint.char '/' ∉ fact.name) →
        ∃ paths : List Path, paths.Nodup ∧ reported.results.map (·.output) = paths.map some ∧
          ∀ path ∈ paths, path.parent = outputFolder (request.apply base) surroundings.disk ∧
            ∃ bytes, outcome.disk.find path = .ok (.file bytes))) ∧
    ((∀ base files, ¬ request.Loads surroundings base files) →
      outcome.disk = surroundings.disk) := by
  intro outcome
  have houtcome : outcome = renderCommand surroundings request :=
    RenderRequest.runProgram_of_askedBy hasked
  -- Once the facts are loaded, the exit code is that of the writing and the report.
  have hloaded : ∀ base files, request.Loads surroundings base files →
      (outcome.exitCode = 0 ↔ request.selected base files ≠ [] ∧
        (∀ fact ∈ request.selected base files,
          (request.drawn surroundings base files fact).status ≠ .failed) ∧
        (request.writing surroundings base files).error = none ∧
        ∀ remark ∈ request.report (request.reported surroundings base files),
          remark.fault? = none) := by
    intro base files hloads
    obtain ⟨telemetry, lines, hrun⟩ := RenderRequest.renderCommand_of_loads hloads
    rw [houtcome, hrun]
    exact RenderRequest.exitCode_finishRun_eq_zero_iff
  refine ⟨⟨?success, ?failure⟩, ?outputs, ?untouched⟩
  case success =>
    intro hzero
    by_contra hnone
    have hnot : ∀ base files, ¬ request.Loads surroundings base files := fun base files hloads =>
      hnone ⟨base, files, hloads, (hloaded base files hloads).mp hzero⟩
    rw [houtcome, (RenderRequest.renderCommand_of_not_loads hnot).1] at hzero
    cases hzero
  case failure =>
    rintro ⟨base, files, hloads, hrest⟩
    exact (hloaded base files hloads).mpr hrest
  case outputs =>
    intro base files hloads hzero reported
    obtain ⟨-, hdone, herror, hprint⟩ := (hloaded base files hloads).mp hzero
    obtain ⟨telemetry, lines, hrun⟩ := RenderRequest.renderCommand_of_loads hloads
    obtain ⟨telemetry', lines', hfinish⟩ := RenderRequest.finishRun_of_ok herror
    have hreport : outcome = reportRun request telemetry'
        (request.writing surroundings base files) lines' reported :=
      houtcome.trans (hrun.trans hfinish)
    rw [hreport, RenderRequest.disk_reportRun]
    exact ⟨(RenderRequest.reportRun_of_printable hprint).2,
      RenderRequest.map_flow_reported request surroundings base files, fun hnames =>
        RenderRequest.exists_outputs_reported hloads hnames hdone
          (RenderRequest.format_mem_of_askedBy hasked) herror⟩
  case untouched =>
    intro hnot
    rw [houtcome]
    exact (RenderRequest.renderCommand_of_not_loads hnot).2

/-! ## One class -/

/-- The text of a file with one class, whose first activity is written in the given way. -/
def oneClassText (activity : String) : List Char :=
  ("\x7b\x22classes\x22:[\x7b\x22name\x22:\x22K\x22,\x22initialActivityName\x22:\x22" ++ activity ++
    "\x22\x7d]\x7d").toList

/-- A working folder with this file, in which nothing can be rendered. -/
def oneClassSurroundings (activity : String) : Surroundings where
  environment := []
  disk :=
    { home := []
      nodes := [(["k.facts.json"],
        .file ((oneClassText activity).map fun c => UInt8.ofNat c.toNat))] }
  renderer := fun _ _ _ => .unavailable

/-- The file with the facts in it. -/
def oneClassFiles (activity : Name) : List (Path × FactFile) :=
  [(⟨.relative, ["k.facts.json"]⟩, ⟨[classStarting "K" activity (by decide)], []⟩)]

/-- What is found out about a flow that ends with its first activity. -/
def FlowAnalysis.ofOne (activity : Name) : FlowAnalysis where
  walk := { entry := activity, visited := [activity], missing := [activity] }
  cycles := ⟨[], []⟩
  groups := []
  edges := []

/-- The command line that asks for DOT files of the facts in the working folder. -/
def dotArguments : List Text := ["render", ".", "-fdot"]

/-- What it asks for. -/
def dotRequest : RenderRequest where
  path := ⟨.relative, []⟩
  format := dotFormat
  edgeStyle := none
  showConditions := false
  showLegend := false
  openOutput := false
  keepDot := false
  outputFolder := none
  verbose := false
  noDeduplicate := false
  supertype := none
  workers := 1
  jsonOutput := false

theorem askedBy_dotArguments (activity : String) :
    dotRequest.AskedBy (oneClassSurroundings activity).disk dotArguments :=
  ⟨_, _, _, rfl, rfl, rfl, rfl, rfl, rfl⟩

/-- The facts of the file are loaded if the way in which the activity is written is understood. -/
theorem loads_oneClass {activity : String} {entry : Name}
    (hdecode : decodeText ((oneClassText activity).map fun c => UInt8.ofNat c.toNat) =
      .ok (oneClassText activity))
    (hjson : Json.read renderRoom (oneClassText activity) = .ok (.object [("classes",
      .list [.object [("name", .text "K"), ("initialActivityName", .text entry)]])])) :
    dotRequest.Loads (oneClassSurroundings activity) {} (oneClassFiles entry) := by
  have hstates : FactFile.States renderRoom (oneClassSurroundings activity).disk
      ⟨.relative, ["k.facts.json"]⟩ _ :=
    ⟨_, _, Disk.read_eq_ok_iff.mpr ⟨["k.facts.json"], rfl, rfl⟩, hdecode, hjson⟩
  have hfound : discover (oneClassSurroundings activity).disk dotRequest.path
      (renderRoom - searchShare) = .ok ((oneClassFiles entry).map Prod.fst) := by
    cbv
  exact ⟨rfl, hfound, List.forall_mem_singleton.mpr (hstates.load_eq_of_valid rfl)⟩

/-- The summary of a run for one class, from what is found out about its flow. -/
theorem summary_oneClass {surroundings : Surroundings} {activity : Name}
    (hentry : (classStarting "K" activity (by decide)).entry = activity)
    (hselected : dotRequest.selected {} (oneClassFiles activity) =
      [classStarting "K" activity (by decide)])
    (hanalysis : FlowAnalysis.ofEntry (dotRequest.apply {}).drawing
      (RenderRequest.indexOf (oneClassFiles activity)) activity = .ofOne activity)
    (houtages : surroundings.outages = []) :
    dotRequest.summary surroundings {} (oneClassFiles activity) =
      .ofResults ⟨RenderRequest.indexOf (oneClassFiles activity),
          (oneClassFiles activity).map Prod.fst⟩
        [.ofDrawing "K" activity (.ofOne activity) (drawFlow (dotRequest.apply {})
          (RenderRequest.indexOf (oneClassFiles activity)) []
          ((FlowAnalysis.ofOne activity).flow "K"))] := by
  rw [RenderRequest.summary, hselected, List.map_singleton, RenderRequest.drawn, generateFlow,
    houtages]
  dsimp only
  rw [hentry, hanalysis]
  rfl

/-- The flow of the class is drawn and written. -/
theorem runProgram_render_oneClass :
    let surroundings := oneClassSurroundings "A"
    let outcome := runProgram surroundings dotArguments
    dotRequest.AskedBy surroundings.disk dotArguments ∧
      dotRequest.Loads surroundings {} (oneClassFiles "A") ∧ outcome.exitCode = 0 ∧
      ∃ path bytes, path.parent = ⟨.root, []⟩ ∧ outcome.disk.find path = .ok (.file bytes) := by
  intro surroundings outcome
  have hasked := askedBy_dotArguments "A"
  have hloads : dotRequest.Loads surroundings {} (oneClassFiles "A") :=
    loads_oneClass (by cbv) (by cbv)
  have hselected : dotRequest.selected {} (oneClassFiles "A") =
      [classStarting "K" "A" (by decide)] := by cbv
  have hsummary := @summary_oneClass surroundings _ rfl hselected (by cbv) rfl
  obtain ⟨hexit, houtputs, -⟩ := runProgram_render hasked
  have hzero : outcome.exitCode = 0 := by
    refine hexit.mpr ⟨{}, oneClassFiles "A", hloads, by simp [hselected], ?_, ?_, ?_⟩
    · intro fact _
      rw [RenderRequest.status_drawn]
      exact (by decide : FlowStatus.completed ≠ .failed)
    · rw [RenderRequest.writing, hsummary]
      decide +kernel
    · rw [RenderRequest.reported, RenderRequest.writing, hsummary]
      decide +kernel
  obtain ⟨-, hflows, hpaths⟩ := houtputs {} (oneClassFiles "A") hloads hzero
  rw [hselected] at hflows hpaths
  obtain ⟨paths, -, houtput, hfound⟩ := hpaths (by decide)
  have hlength := congrArg List.length hflows
  have hlength' := congrArg List.length houtput
  cases paths with
  | nil =>
    rw [List.length_map] at hlength hlength'
    exact absurd (hlength.symm.trans hlength') (by decide)
  | cons path paths =>
    obtain ⟨hparent, bytes, hfind⟩ := hfound path List.mem_cons_self
    exact ⟨hasked, hloads, hzero, path, bytes, hparent, hfind⟩

/-- The first activity is written as a surrogate, so that the DOT text has no bytes. The facts can
be used and the flow is drawn; the system refuses no file operation, and yet the run fails. -/
theorem exitCode_render_surrogate :
    let surroundings := oneClassSurroundings "\\ud800"
    let files := oneClassFiles [.surrogate 0]
    dotRequest.AskedBy surroundings.disk dotArguments ∧ dotRequest.Loads surroundings {} files ∧
      dotRequest.selected {} files ≠ [] ∧
      (∀ fact ∈ dotRequest.selected {} files,
        CodePoint.char '/' ∉ fact.name ∧ CodePoint.char '\x00' ∉ fact.name ∧
          (dotRequest.drawn surroundings {} files fact).status ≠ .failed) ∧
      (∃ error, (dotRequest.writing surroundings {} files).error = some error ∧
        error.isRefusal = false) ∧
      (runProgram surroundings dotArguments).exitCode = 1 := by
  intro surroundings files
  have hasked := askedBy_dotArguments "\\ud800"
  have hloads : dotRequest.Loads surroundings {} files := loads_oneClass (by cbv) (by cbv)
  have hselected : dotRequest.selected {} files =
      [classStarting "K" [.surrogate 0] (by decide)] := by cbv
  have hsummary := @summary_oneClass surroundings _ rfl hselected (by cbv) rfl
  obtain ⟨error, herror, hrefusal⟩ : ∃ error,
      (dotRequest.writing surroundings {} files).error = some error ∧ error.isRefusal = false := by
    have hall : ((dotRequest.writing surroundings {} files).error.all (!·.isRefusal)) = true ∧
        (dotRequest.writing surroundings {} files).error.isSome = true := by
      rw [RenderRequest.writing, hsummary]
      decide +kernel
    obtain ⟨error, herror⟩ := Option.isSome_iff_exists.mp hall.2
    rw [herror] at hall
    exact ⟨error, herror, by simpa using hall.1⟩
  obtain ⟨telemetry, lines, hrun⟩ := RenderRequest.renderCommand_of_loads hloads
  refine ⟨hasked, hloads, by simp [hselected], ?_, ⟨error, herror, hrefusal⟩, ?_⟩
  · intro fact hfact
    rw [hselected, List.mem_singleton] at hfact
    subst hfact
    refine ⟨by decide, by decide, ?_⟩
    rw [RenderRequest.status_drawn]
    exact (by decide : FlowStatus.completed ≠ .failed)
  · rw [RenderRequest.runProgram_of_askedBy hasked, hrun]
    exact RenderRequest.exitCode_finishRun_of_error herror

end FlowDiagram
