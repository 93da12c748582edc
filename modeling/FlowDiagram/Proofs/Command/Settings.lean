import FlowDiagram.Proofs.Command.Render

/-!
# Settings from two sources

The settings of a run come from the environment, and the command line can override each of them. One
rule describes this: what the command line says counts, and the environment fills in the rest. A run
follows it for most settings. But the command line always has something to say about the format and
the number of workers, even if nobody has written it there, so that the environment has no say in
them. And it says nothing at all where it has an empty folder or supertype, so that there is no way
to take back what the environment says.

## Main definitions

* `Overrides`: what a command line says about settings.
* `Overrides.onto`: the settings of the environment with those of the command line on top.
* `Overrides.counted`: what counts of what a command line says.
* `renderWith`: the run of a command with some settings.

`runProgram_renderWith` is the main result.
-/

namespace FlowDiagram

/-! ## What a command line says -/

/-- What a command line says about settings: nothing, or a value each. No folder means the working
folder, and no supertype means any. -/
structure Overrides where
  routing : Option Routing
  showConditions : Option Bool
  showLegend : Option Bool
  deduplicate : Option Bool
  outputFormat : Option Text
  keepDot : Option Bool
  openOutput : Option Bool
  outputFolder : Option (Option Path)
  entrySupertype : Option (Option Text)
  workers : Option Nat
  deriving DecidableEq, Repr

namespace Overrides

/-- A switch says something only if it is there. -/
def switch (isGiven value : Bool) : Option Bool :=
  if isGiven then some value else none

/-- A value says something if it is there, and an empty one says that there is nothing. -/
def reading {α : Type} (read : Text → α) (value? : Option Text) : Option (Option α) :=
  value?.map fun value => if value = [] then none else some (read value)

/-- What the options on a command line say. -/
def ofArguments (read : Arguments RenderOption) : Overrides where
  routing := (read.value? .edgeStyle).map Routing.ofName
  showConditions := switch (read.has .showConditions) true
  showLegend := switch (read.has .showLegend) true
  deduplicate := switch (read.has .noDeduplicate) false
  outputFormat := read.value? .format
  keepDot := switch (read.has .keepDot) true
  openOutput := switch (read.has .openOutput) true
  outputFolder := reading Path.ofText (read.value? .outputFolder)
  entrySupertype := reading id (read.value? .supertype)
  workers := ((read.value? .workers).bind Text.readInteger).map Int.toNat

/-- Settings in which the command line overrides what it says something about. -/
def onto (said : Overrides) (base : FlowSettings) : FlowSettings where
  drawing := { base.drawing with
    routing := said.routing.getD base.drawing.routing
    showConditions := said.showConditions.getD base.drawing.showConditions
    showLegend := said.showLegend.getD base.drawing.showLegend
    deduplicate := said.deduplicate.getD base.drawing.deduplicate }
  outputFolder := said.outputFolder.getD base.outputFolder
  outputFormat := said.outputFormat.getD base.outputFormat
  keepDot := said.keepDot.getD base.keepDot
  openOutput := said.openOutput.getD base.openOutput
  entrySupertype := said.entrySupertype.getD base.entrySupertype
  workers := said.workers.getD base.workers

/-- What counts of it in a run: a format and a number of workers are always said, and it is never
said that there is no folder or no supertype. -/
def counted (said : Overrides) : Overrides :=
  { said with
    outputFormat := some (said.outputFormat.getD "svg")
    workers := some (said.workers.getD 1)
    outputFolder := said.outputFolder.filter Option.isSome
    entrySupertype := said.entrySupertype.filter Option.isSome }

section

variable {α β : Type}

theorem getD_switch_true (isGiven fallback : Bool) :
    (switch isGiven true).getD fallback = (isGiven || fallback) := by
  cases isGiven <;> rfl

theorem getD_switch_false (isGiven fallback : Bool) :
    (switch isGiven false).getD fallback = (fallback && !isGiven) := by
  cases isGiven <;> cases fallback <;> rfl

/-- A value that is not empty comes first. -/
theorem getD_filter_reading (read : Text → α) (value? : Option Text) (fallback : Option α) :
    ((reading read value?).filter Option.isSome).getD fallback =
      ((value?.filter (· ≠ [])).map read).or fallback := by
  cases value? with
  | none => rfl
  | some value => by_cases hempty : value = [] <;> simp [reading, Option.filter, hempty]

theorem reading_eq_some_none_iff {read : Text → α} {value? : Option Text} :
    reading read value? = some none ↔ value? = some [] := by
  cases value? with
  | none => simp [reading]
  | some value => by_cases hempty : value = [] <;> simp [reading, hempty]

/-- A default that is always said makes no difference where something is said anyway, or where it is
the default of the other source as well. -/
theorem getD_eq_getD_iff {said : Option α} {fallback other : α} :
    said.getD fallback = said.getD other ↔ said.isSome = true ∨ other = fallback := by
  cases said with
  | none => simp [eq_comm]
  | some _ => simp

/-- A missing value that does not count makes no difference where none is said, or where there is
none in the other source either. -/
theorem getD_filter_eq_getD_iff {said : Option (Option α)} {other : Option α} :
    (said.filter Option.isSome).getD other = said.getD other ↔
      (said = some none → other = none) := by
  rcases said with _ | _ | value
  · simp
  · simp [Option.filter]
  · simp [Option.filter]

end

/-- What counts comes to the same as what is said if and only if the environment has the defaults
where a default is put in, and no values where they cannot be taken back. -/
theorem onto_counted_eq_iff {said : Overrides} {base : FlowSettings} :
    said.counted.onto base = said.onto base ↔
      (said.outputFormat.isSome = true ∨ base.outputFormat = "svg") ∧
        (said.workers.isSome = true ∨ base.workers = 1) ∧
        (said.outputFolder = some none → base.outputFolder = none) ∧
        (said.entrySupertype = some none → base.entrySupertype = none) := by
  rw [← getD_eq_getD_iff, ← getD_eq_getD_iff, ← getD_filter_eq_getD_iff, ← getD_filter_eq_getD_iff]
  simp only [onto, counted, FlowSettings.mk.injEq, Option.getD_some, true_and]
  tauto

end Overrides

/-- The environment never asks for files to be opened. -/
theorem FlowSettings.openOutput_ofEnvironment {environment : Environment} {base : FlowSettings}
    (h : FlowSettings.ofEnvironment environment = .ok base) : base.openOutput = false := by
  unfold ofEnvironment at h
  cases hdrawing : environment.drawing with
  | error e => simp [hdrawing, bind, Except.bind] at h
  | ok drawing =>
    cases hworkers : environment.workers with
    | error e => simp [hdrawing, hworkers, bind, Except.bind] at h
    | ok workers =>
      simp only [hdrawing, hworkers, bind, Except.bind, pure, Except.pure, Except.ok.injEq] at h
      rw [← h]

namespace RenderRequest

/-! ## What a run makes of it -/

theorem eq_of_ofArguments {disk : Disk} {read : Arguments RenderOption} {request : RenderRequest}
    (h : ofArguments disk read = .ok request) :
    checkOptions disk read (distinct (read.options.map Prod.fst)) = .ok () ∧
      request =
        { path := request.path
          format := (read.value? .format).getD "svg"
          edgeStyle := read.value? .edgeStyle
          showConditions := read.has .showConditions
          showLegend := read.has .showLegend
          openOutput := read.has .openOutput
          keepDot := read.has .keepDot
          outputFolder := read.value? .outputFolder
          verbose := read.has .verbose
          noDeduplicate := read.has .noDeduplicate
          supertype := read.value? .supertype
          workers := (((read.value? .workers).bind Text.readInteger).getD 1).toNat
          jsonOutput := read.has .jsonOutput } := by
  unfold ofArguments at h
  split at h
  · cases h
  · rename_i hchecked
    cases hpath : readPath disk read.operands with
    | error e => simp [hpath, Except.map] at h
    | ok path =>
      rw [hpath] at h
      cases h
      exact ⟨hchecked, rfl⟩

/-- The settings of a run are those of the environment with what counts of the command line. -/
theorem apply_eq_onto {disk : Disk} {read : Arguments RenderOption} {request : RenderRequest}
    {base : FlowSettings} (h : ofArguments disk read = .ok request)
    (hclosed : base.openOutput = false) :
    request.apply base = (Overrides.ofArguments read).counted.onto base := by
  obtain ⟨-, hrequest⟩ := eq_of_ofArguments h
  have hworkers : (((read.value? .workers).bind Text.readInteger).getD 1).toNat =
      (((read.value? .workers).bind Text.readInteger).map Int.toNat).getD 1 := by
    cases (read.value? .workers).bind Text.readInteger <;> rfl
  rw [hrequest, apply, applyDrawing, Overrides.onto]
  simp only [Overrides.counted, Overrides.ofArguments, Overrides.getD_switch_true,
    Overrides.getD_switch_false, Overrides.getD_filter_reading, Option.map_id, id_eq,
    Option.getD_some, hclosed, Bool.or_false, hworkers]

/-- A number of workers that is given has been read. -/
theorem isSome_workers_of_ofArguments {disk : Disk} {read : Arguments RenderOption}
    {request : RenderRequest} (h : ofArguments disk read = .ok request) :
    (Overrides.ofArguments read).workers.isSome = read.has .workers := by
  obtain ⟨hchecked, -⟩ := eq_of_ofArguments h
  show (((read.value? .workers).bind Text.readInteger).map Int.toNat).isSome =
    (read.value? .workers).isSome
  rw [Option.isSome_map]
  cases hworkers : read.value? .workers with
  | none => rfl
  | some value =>
    have hvalue := checkValue_of_checkOptions hchecked .workers
      (mem_distinct.mpr (Arguments.mem_options_of_value? hworkers))
    simp only [hworkers, Option.getD_some, checkValue, checkWorkers] at hvalue
    split at hvalue
    · cases hvalue
    · rename_i n hread
      simp [hread]

/-- A command line that is in order is read as some options and operands, and asks for a run. -/
structure IsReadFrom (request : RenderRequest) (disk : Disk) (arguments : List Text)
    (read : Arguments RenderOption) : Prop where
  command : ∃ (group : Arguments HelpOption) (rest : List Text),
    Arguments.read HelpOption.specs false arguments = .ok group ∧ group.has .help = false ∧
      group.operands = Text.ofString "render" :: rest ∧
      Arguments.read RenderOption.specs true rest = .ok read
  noHelp : read.has .help = false
  request : ofArguments disk read = .ok request

theorem askedBy_iff {request : RenderRequest} {disk : Disk} {arguments : List Text} :
    request.AskedBy disk arguments ↔ ∃ read, request.IsReadFrom disk arguments read := by
  constructor
  · rintro ⟨group, rest, read, hgroup, hhelp, hoperands, hread, hnohelp, hrequest⟩
    exact ⟨read, ⟨group, rest, hgroup, hhelp, hoperands, hread⟩, hnohelp, hrequest⟩
  · rintro ⟨read, ⟨group, rest, hgroup, hhelp, hoperands, hread⟩, hnohelp, hrequest⟩
    exact ⟨group, rest, read, hgroup, hhelp, hoperands, hread, hnohelp, hrequest⟩

end RenderRequest

/-! ## The run -/

/-- Loads facts, generates flows, writes and reports them with the given settings. -/
def renderWith (surroundings : Surroundings) (request : RenderRequest) (settings : FlowSettings) :
    CommandOutcome :=
  let log := startLog surroundings request.verbose
  let ran := run settings renderRoom surroundings.disk surroundings.outages request.path
  let seen := Telemetry.observe log.state ran.events
  let lines := log.lines ++ seen.lines
  match ran.answer with
  | .error e => .notLoaded surroundings.disk lines e
  | .ok summary => finishRun surroundings request settings seen.state lines summary

theorem renderCommand_eq_renderWith {surroundings : Surroundings} {base : FlowSettings}
    (h : FlowSettings.ofEnvironment surroundings.environment = .ok base)
    (request : RenderRequest) :
    renderCommand surroundings request = renderWith surroundings request (request.apply base) := by
  rw [renderCommand, h]
  rfl

/-- A command line that is in order runs with the settings of the environment and, on top of them,
what counts of it. These are the settings that the environment and the command line ask for if and
only if the format and the number of workers are given or are the default ones in the environment
too, and an empty folder or supertype does not have to take back anything. -/
theorem runProgram_renderWith {surroundings : Surroundings} {arguments : List Text}
    {read : Arguments RenderOption} {request : RenderRequest} {base : FlowSettings}
    (hread : request.IsReadFrom surroundings.disk arguments read)
    (henvironment : FlowSettings.ofEnvironment surroundings.environment = .ok base) :
    let said := Overrides.ofArguments read
    let settings := request.apply base
    runProgram surroundings arguments = renderWith surroundings request settings ∧
      settings = said.counted.onto base ∧
      (settings = said.onto base ↔
        (read.has .format = true ∨ base.outputFormat = "svg") ∧
          (read.has .workers = true ∨ base.workers = 1) ∧
          (read.value? .outputFolder = some [] → base.outputFolder = none) ∧
          (read.value? .supertype = some [] → base.entrySupertype = none)) := by
  intro said settings
  have hsettings : settings = said.counted.onto base :=
    RenderRequest.apply_eq_onto hread.request (FlowSettings.openOutput_ofEnvironment henvironment)
  refine ⟨?_, hsettings, ?_⟩
  · rw [RenderRequest.runProgram_of_askedBy (RenderRequest.askedBy_iff.mpr ⟨read, hread⟩),
      renderCommand_eq_renderWith henvironment]
  · rw [hsettings, Overrides.onto_counted_eq_iff,
      RenderRequest.isSome_workers_of_ofArguments hread.request]
    simp only [said, Overrides.ofArguments, Overrides.reading_eq_some_none_iff, Arguments.has]

/-- An environment that asks for images, for their DOT files and for several workers. -/
def imageEnvironment : Environment :=
  [("BEHANDLING_FLOW_FORMAT", "png"), ("BEHANDLING_FLOW_KEEP_DOT", "1"),
    ("BEHANDLING_FLOW_WORKERS", "4")]

/-- The settings that it asks for. -/
def imageSettings : FlowSettings :=
  { drawing := .standard, outputFormat := "png", keepDot := true, workers := 4 }

/-- The file with one class, in this environment. -/
def imageSurroundings : Surroundings :=
  { oneClassSurroundings "A" with environment := imageEnvironment }

theorem ofEnvironment_imageSurroundings :
    FlowSettings.ofEnvironment imageSurroundings.environment = .ok imageSettings := by
  rfl

/-- The format is that of the command line, DOT files are kept as the environment asks for it, and
there is one worker. -/
theorem runProgram_renderWith_dot :
    let read : Arguments RenderOption := ⟨[(.format, dotFormat)], ["."]⟩
    dotRequest.IsReadFrom imageSurroundings.disk dotArguments read ∧
      FlowSettings.ofEnvironment imageSurroundings.environment = .ok imageSettings ∧
      runProgram imageSurroundings dotArguments =
        renderWith imageSurroundings dotRequest (dotRequest.apply imageSettings) ∧
      dotRequest.apply imageSettings = { outputFormat := dotFormat, keepDot := true } := by
  intro read
  have hread : dotRequest.IsReadFrom imageSurroundings.disk dotArguments read :=
    ⟨⟨_, _, rfl, rfl, rfl, rfl⟩, rfl, rfl⟩
  obtain ⟨hrun, hsettings, -⟩ := runProgram_renderWith hread ofEnvironment_imageSurroundings
  exact ⟨hread, ofEnvironment_imageSurroundings, hrun, hsettings⟩

/-- A command line with nothing but the path to the facts. -/
def plainArguments : List Text := ["render", "."]

/-- What it asks for. -/
def plainRequest : RenderRequest :=
  { dotRequest with format := "svg" }

/-- The command line mentions neither a format nor a number of workers, and yet the run has others
than the environment asks for. -/
theorem not_onto_plainArguments :
    let read : Arguments RenderOption := ⟨[], ["."]⟩
    let settings := plainRequest.apply imageSettings
    FlowSettings.ofEnvironment imageSurroundings.environment = .ok imageSettings ∧
      plainRequest.IsReadFrom imageSurroundings.disk plainArguments read ∧
      runProgram imageSurroundings plainArguments =
        renderWith imageSurroundings plainRequest settings ∧
      read.has .format = false ∧ imageSettings.outputFormat = "png" ∧
      settings.outputFormat = "svg" ∧
      read.has .workers = false ∧ imageSettings.workers = 4 ∧ settings.workers = 1 ∧
      settings ≠ (Overrides.ofArguments read).onto imageSettings := by
  intro read settings
  have hread : plainRequest.IsReadFrom imageSurroundings.disk plainArguments read :=
    ⟨⟨_, _, rfl, rfl, rfl, rfl⟩, rfl, rfl⟩
  refine ⟨ofEnvironment_imageSurroundings, hread, ?_, rfl, rfl, rfl, rfl, rfl, rfl, by decide⟩
  rw [RenderRequest.runProgram_of_askedBy (RenderRequest.askedBy_iff.mpr ⟨read, hread⟩),
    renderCommand_eq_renderWith ofEnvironment_imageSurroundings]

end FlowDiagram
