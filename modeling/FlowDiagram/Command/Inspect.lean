import FlowDiagram.Command.Outcome

/-!
# The inspect command

Prints what is known about the flows below a path: the processors with their transitions, the entry
points, and the cycles of their flows. Nothing is drawn, and the environment is not consulted.

## Main definitions

* `inspectionRemarks`: what is said about an index.
* `inspectCommand`: the command.
-/

namespace FlowDiagram

/-- The options of the command. -/
inductive InspectOption
  | supertype
  | verbose
  | help
  deriving DecidableEq, Repr

/-- The options with their names. -/
def InspectOption.specs : List (OptionSpec InspectOption) :=
  [{ key := .supertype, long := "supertype", takesValue := true },
    { key := .verbose, long := "verbose", short := some 'v' },
    { key := .help, long := "help" }]

/-- What a command line asks for. -/
structure InspectRequest where
  path : Path
  supertype : Option Text
  verbose : Bool
  deriving DecidableEq, Repr

namespace InspectRequest

/-- How the command is called. -/
def usage : Usage :=
  { command := programName ++ " inspect"
    parameters := "[OPTIONS] PATH"
    help := [
      "",
      "  Print the indexed processors, entry points and detected cycles of PATH.",
      "",
      "  Examples:",
      "      behandling-flow inspect facts/",
      "",
      "Options:",
      "  --supertype TEXT  Filter entry classes by supertype text",
      "  -v, --verbose     Verbose logging output",
      "  --help            Show this message and exit."] }

/-- What a command line asks for, or why it is refused. -/
def ofArguments (disk : Disk) (arguments : Arguments InspectOption) :
    Except Refusal InspectRequest :=
  (readPath disk arguments.operands).map fun path =>
    { path, supertype := arguments.value? .supertype, verbose := arguments.has .verbose }

end InspectRequest

/-- The line about a transition. -/
def transitionLine (transition : Transition) : Text :=
  let condition : Text := (transition.condition.filter (· ≠ [])).elim [] (" if " ++ ·)
  let fanOut := if transition.isFanOut then " (fan-out)" else ""
  "    -> " ++ Text.joined ", " transition.targets ++ condition ++ fanOut

/-- The lines about a processor. -/
def processorLines (activity : Name) (processor : ProcessorFact) : List Text :=
  let marker := if processor.createsManualTask then " [manual task]" else ""
  ("  " ++ activity ++ " (" ++ processor.processorName ++ ")" ++ marker) ::
    processor.transitions.map transitionLine ++
    if processor.signalsCompletion then [Text.ofString "    -> END"] else []

/-- The lines about all processors, sorted by their activities. -/
def processorsLines (index : FactIndex) : List Text :=
  let rows := index.processors.rows.mergeSort fun a b => decide (a.1 ≤ b.1)
  Text.ofString s!"Processors ({rows.length}):" ::
    rows.flatMap fun (activity, processor) => processorLines activity processor

/-- The lines about the flow of a class. -/
def flowLines (name : Name) (walk : Walk) (cycles : CycleAnalysis) : List Text :=
  ("  " ++ name ++ " -> " ++ walk.entry) ::
    (s!"    {walk.visited.length} activities, {walk.edges.length} edges, " ++
      s!"{walk.missing.length} without processor") ::
    cycles.backEdges.map (fun (source, target) => "    cycle: " ++ source ++ " -> " ++ target) ++
    cycles.clusters.map fun members => "    cluster: \x7b" ++ Text.joined ", " members ++ "\x7d"

/-- What is found out about the flow of a class. -/
def inspectFlow (index : FactIndex) (fact : ClassFact) : FlowAnalysis :=
  FlowAnalysis.ofEntry .standard index fact.entry

/-- What is logged about the flow of a class. -/
def inspectionNotes (analysis : FlowAnalysis) : List Note :=
  analysis.notes { DrawingOptions.standard with deduplicate := false }

/-- What is said about the flow of a class. -/
def flowRemarks (index : FactIndex) (fact : ClassFact) : List Remark :=
  let analysis := inspectFlow index fact
  (inspectionNotes analysis).map .note ++
    (flowLines fact.name analysis.walk analysis.cycles).map .out

/-- What is said about an index. -/
def inspectionRemarks (index : FactIndex) (supertype : Option Text) : List Remark :=
  let entries := index.entryPoints supertype
  (processorsLines index).map .out ++ [.out s!"\nEntry points ({entries.length}):"] ++
    entries.flatMap (flowRemarks index)

/-- How many containers a fact file that is inspected may hold inside one another: what the command
itself takes of the reader's thousand is gone. -/
def inspectRoom : Nat := 983

/-- Prints what a command line asks for. -/
def inspectCommand (surroundings : Surroundings) (request : InspectRequest) : CommandOutcome :=
  let log := startLog surroundings request.verbose
  let loading := loadIndex inspectRoom surroundings.disk request.path
  let seen := Telemetry.observe log.state loading.events
  let lines := log.lines ++ seen.lines
  match loading.answer with
  | .error e => .notLoaded surroundings.disk lines e
  | .ok loaded =>
    CommandOutcome.say seen.state { disk := surroundings.disk, lines }
      (inspectionRemarks loaded.index request.supertype)

end FlowDiagram
