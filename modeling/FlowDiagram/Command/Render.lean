import FlowDiagram.Command.Outcome
import FlowDiagram.Command.Report

/-!
# The render command

Generates one diagram per entry point and writes it. Settings come from the environment; what the
command line says is put on top of them.

## Main definitions

* `RenderRequest.ofArguments`: what a command line asks for.
* `RenderRequest.apply`: the settings of a run, from those of the environment.
* `renderCommand`: the command.
-/

namespace FlowDiagram

/-- The options of the command. -/
inductive RenderOption
  | format
  | edgeStyle
  | showConditions
  | showLegend
  | openOutput
  | keepDot
  | outputFolder
  | verbose
  | noDeduplicate
  | supertype
  | workers
  | jsonOutput
  | help
  deriving DecidableEq, Repr

namespace RenderOption

/-- The options with their names. -/
def specs : List (OptionSpec RenderOption) :=
  [{ key := .format, long := "format", short := some 'f', takesValue := true },
    { key := .edgeStyle, long := "edge-style", short := some 'e', takesValue := true },
    { key := .showConditions, long := "show-conditions", short := some 'c' },
    { key := .showLegend, long := "show-legend", short := some 'l' },
    { key := .openOutput, long := "open" },
    { key := .keepDot, long := "keep-dot", short := some 'k' },
    { key := .outputFolder, long := "output-dir", short := some 'o', takesValue := true },
    { key := .verbose, long := "verbose", short := some 'v' },
    { key := .noDeduplicate, long := "no-deduplicate" },
    { key := .supertype, long := "supertype", takesValue := true },
    { key := .workers, long := "workers", takesValue := true },
    { key := .jsonOutput, long := "json-output" },
    { key := .help, long := "help" }]

/-- The names of an option as they are written. -/
def names (option : RenderOption) : List Text :=
  (specs.find? (·.key = option)).elim [] OptionSpec.names

end RenderOption

/-- The formats that diagrams are written in. -/
def outputFormats : List Text := ["svg", "png", "pdf", "jpg", dotFormat]

/-- The names of edge routings that the command line takes. -/
def edgeStyleNames : List Text :=
  ["straight", "curved", "ortho", "orthogonal", "polyline", "spline"]

/-- What a command line asks for. -/
structure RenderRequest where
  path : Path
  format : Text
  edgeStyle : Option Text
  showConditions : Bool
  showLegend : Bool
  openOutput : Bool
  keepDot : Bool
  outputFolder : Option Text
  verbose : Bool
  noDeduplicate : Bool
  supertype : Option Text
  workers : Nat
  jsonOutput : Bool
  deriving DecidableEq, Repr

namespace RenderRequest

/-- How the command is called. -/
def usage : Usage :=
  { command := programName ++ " render"
    parameters := "[OPTIONS] PATH"
    help := [
      "",
      "  Generate one flow diagram per entry point found in PATH.",
      "",
      "  PATH is a fact file or a directory containing *.facts.json files.",
      "",
      "  Examples:",
      "      behandling-flow render facts/ -c -l",
      "      behandling-flow render app.facts.json -f png -e ortho -o diagrams",
      "      behandling-flow render facts/ -f dot --supertype Behandling",
      "",
      "Options:",
      "  -f, --format [svg|png|pdf|jpg|dot]",
      "                                  Output format ('dot' writes the graph",
      "                                  description only)",
      "  -e, --edge-style [straight|curved|ortho|orthogonal|polyline|spline]",
      "                                  Edge routing style [default: straight]",
      "  -c, --show-conditions           Show condition labels on edges",
      "  -l, --show-legend               Append a colour legend",
      "  --open                          Open the generated files",
      "  -k, --keep-dot                  Keep the .dot file after rendering",
      "  -o, --output-dir DIRECTORY      Directory for generated files (default:",
      "                                  current directory)",
      "  -v, --verbose                   Verbose logging output",
      "  --no-deduplicate                Draw every raw edge instead of consolidating",
      "                                  parallel edges",
      "  --supertype TEXT                Only use entry classes whose supertype name",
      "                                  contains this text (e.g. Behandling)",
      "  --workers INTEGER RANGE         Parallel entry points  [x>=1]",
      "  --json-output                   Print the run summary as JSON",
      "  --help                          Show this message and exit."] }

/-- Checks that a value is one of some choices. -/
def checkChoice (option : RenderOption) (choices : List Text) (value : Text) :
    Except Refusal Unit :=
  if choices.contains value then .ok ()
  else .error (.usage (.invalidValue option.names (.notOneOf value choices)))

/-- Checks the number of workers. -/
def checkWorkers (value : Text) : Except Refusal Unit :=
  match Text.readInteger value with
  | none => .error (.usage (.invalidValue RenderOption.workers.names (.notInteger value)))
  | some n =>
    if n < 1 then
      .error (.usage (.invalidValue RenderOption.workers.names (.belowMinimum n 1)))
    else .ok ()

/-- Checks that no file stands where the output folder is to be. -/
def checkFolder (disk : Disk) (value : Text) : Except Refusal Unit :=
  match disk.findName value with
  | .ok (.file _) =>
    .error (.usage (.invalidValue RenderOption.outputFolder.names (.notFolder value)))
  | .ok .folder => .ok ()
  | .error e =>
    if e.number?.isSome then .ok ()
    else .error (.failure (.loading (.unreachable (.ofText value) e)))

/-- Checks the value of an option. -/
def checkValue (disk : Disk) (option : RenderOption) (value : Text) : Except Refusal Unit :=
  match option with
  | .format => checkChoice .format outputFormats value
  | .edgeStyle => checkChoice .edgeStyle edgeStyleNames value
  | .workers => checkWorkers value
  | .outputFolder => checkFolder disk value
  | _ => .ok ()

/-- Checks the options in the order in which they first appear. Of an option that is given more than
once only the last value counts. -/
def checkOptions (disk : Disk) (arguments : Arguments RenderOption) :
    List RenderOption → Except Refusal Unit
  | [] => .ok ()
  | option :: options =>
    match checkValue disk option ((arguments.value? option).getD []) with
    | .error e => .error e
    | .ok () => checkOptions disk arguments options

/-- What a command line asks for, or why it is refused. -/
def ofArguments (disk : Disk) (arguments : Arguments RenderOption) :
    Except Refusal RenderRequest :=
  match checkOptions disk arguments (distinct (arguments.options.map Prod.fst)) with
  | .error e => .error e
  | .ok () =>
    (readPath disk arguments.operands).map fun path =>
      { path
        format := (arguments.value? .format).getD "svg"
        edgeStyle := arguments.value? .edgeStyle
        showConditions := arguments.has .showConditions
        showLegend := arguments.has .showLegend
        openOutput := arguments.has .openOutput
        keepDot := arguments.has .keepDot
        outputFolder := arguments.value? .outputFolder
        verbose := arguments.has .verbose
        noDeduplicate := arguments.has .noDeduplicate
        supertype := arguments.value? .supertype
        workers := (((arguments.value? .workers).bind Text.readInteger).getD 1).toNat
        jsonOutput := arguments.has .jsonOutput }

/-- The drawing options of a run. Switches add to those of the environment. -/
def applyDrawing (request : RenderRequest) (options : DrawingOptions) : DrawingOptions :=
  { options with
    routing := (request.edgeStyle.map Routing.ofName).getD options.routing
    showConditions := request.showConditions || options.showConditions
    showLegend := request.showLegend || options.showLegend
    deduplicate := options.deduplicate && !request.noDeduplicate }

/-- The settings of a run, from those of the environment. The format and the number of workers are
those of the command line in any case. -/
def apply (request : RenderRequest) (settings : FlowSettings) : FlowSettings :=
  { drawing := request.applyDrawing settings.drawing
    outputFolder :=
      ((request.outputFolder.filter (· ≠ [])).map Path.ofText).or settings.outputFolder
    outputFormat := request.format
    keepDot := request.keepDot || settings.keepDot
    openOutput := request.openOutput
    entrySupertype := (request.supertype.filter (· ≠ [])).or settings.entrySupertype
    workers := request.workers }

/-- How a run is reported: as JSON if that is asked for, otherwise line by line. -/
def report (request : RenderRequest) (summary : RunSummary) : List Remark :=
  if request.jsonOutput then [.out summary.toJson.pretty] else summary.remarks

end RenderRequest

/-- The report of a run, and whether it counts as a success: some flow was drawn, and none
failed. -/
def reportRun (request : RenderRequest) (telemetry : TelemetryState) (outputs : Outputs)
    (lines : List LogLine) (summary : RunSummary) : CommandOutcome :=
  let outcome :=
    CommandOutcome.say telemetry { disk := outputs.disk, lines } (request.report summary)
  if outcome.failure.isSome then outcome
  else
    { outcome with
      exitCode := if summary.isFailed || summary.results.isEmpty then 1 else 0
      launched := if request.openOutput then outputs.paths else [] }

/-- How many missing folders can be made on the way to the output folder: what the command itself
takes of the thousand that can be under way at a time is gone. -/
def folderRoom : Nat := 985

/-- Writes the diagrams of a run and reports it. -/
def finishRun (surroundings : Surroundings) (request : RenderRequest) (settings : FlowSettings)
    (telemetry : TelemetryState) (lines : List LogLine) (summary : RunSummary) :
    CommandOutcome :=
  let outputs := writeOutputs settings surroundings.renderer folderRoom surroundings.disk summary
  let seen := Telemetry.observe telemetry outputs.events
  let lines := lines ++ seen.lines
  match outputs.error with
  | none => reportRun request seen.state outputs lines { summary with results := outputs.results }
  | some e =>
    if e.isRefusal then
      .stopped outputs.disk (lines ++ Telemetry.log seen.state .notWritten) e.message
    else .failed outputs.disk lines (.writing e)

/-- How many containers a fact file that is rendered may hold inside one another: what the command
itself takes of the reader's thousand is gone. -/
def renderRoom : Nat := 982

/-- Renders the diagrams that a command line asks for. -/
def renderCommand (surroundings : Surroundings) (request : RenderRequest) : CommandOutcome :=
  let log := startLog surroundings request.verbose
  match FlowSettings.ofEnvironment surroundings.environment with
  | .error e => .misconfigured surroundings.disk log.lines e
  | .ok settings =>
    let settings := request.apply settings
    let ran := run settings renderRoom surroundings.disk surroundings.outages request.path
    let seen := Telemetry.observe log.state ran.events
    let lines := log.lines ++ seen.lines
    match ran.answer with
    | .error e => .notLoaded surroundings.disk lines e
    | .ok summary => finishRun surroundings request settings seen.state lines summary

end FlowDiagram
