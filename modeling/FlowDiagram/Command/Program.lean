import FlowDiagram.Command.Info
import FlowDiagram.Command.Inspect
import FlowDiagram.Command.Render

/-!
# The program

The command line as a whole: the name of a command, and what the command makes of the rest.

## Main definitions

* `runProgram`: the outcome of a command line.
-/

namespace FlowDiagram

/-- How the program is called. -/
def programUsage : Usage :=
  { command := programName
    parameters := "[OPTIONS] COMMAND [ARGS]..."
    help := [
      "",
      "  behandling-flow - Render Behandling flows as Graphviz diagrams.",
      "",
      "Options:",
      "  --help  Show this message and exit.",
      "",
      "Commands:",
      "  info     Show version and configuration information.",
      "  inspect  Print the indexed processors, entry points and detected cycles...",
      "  render   Generate one flow diagram per entry point found in PATH."] }

/-- Reads the arguments of a command and runs it: a wrong argument comes first, then the wish for
help, then what is wrong with values. -/
def runWith {ι ρ : Type} [DecidableEq ι] (disk : Disk) (usage : Usage)
    (specs : List (OptionSpec ι)) (help : ι)
    (request : Arguments ι → Except Refusal ρ) (command : ρ → CommandOutcome)
    (arguments : List Text) : CommandOutcome :=
  match Arguments.read specs true arguments with
  | .error e => .misused disk usage e
  | .ok read =>
    if read.has help then .help disk usage
    else
      match request read with
      | .error (.usage e) => .misused disk usage e
      | .error (.failure failure) => .failed disk [] failure
      | .ok request => command request

/-- The commands of the program. -/
inductive Command
  | info
  | inspect
  | render
  deriving DecidableEq, Repr

namespace Command

/-- The name of a command. -/
def name : Command → String
  | .info => "info"
  | .inspect => "inspect"
  | .render => "render"

/-- All commands. -/
def all : List Command := [.info, .inspect, .render]

/-- The info command takes no operands. -/
def noOperands (arguments : Arguments HelpOption) : Except Refusal Unit :=
  if arguments.operands.isEmpty then .ok ()
  else .error (.usage (.extraArguments arguments.operands))

/-- Runs a command. -/
def run (surroundings : Surroundings) (arguments : List Text) : Command → CommandOutcome
  | .info =>
    runWith surroundings.disk infoUsage HelpOption.specs .help noOperands
      (fun _ => infoCommand surroundings) arguments
  | .inspect =>
    runWith surroundings.disk InspectRequest.usage InspectOption.specs .help
      (InspectRequest.ofArguments surroundings.disk) (inspectCommand surroundings) arguments
  | .render =>
    runWith surroundings.disk RenderRequest.usage RenderOption.specs .help
      (RenderRequest.ofArguments surroundings.disk) (renderCommand surroundings) arguments

end Command

/-- Answers a name that no command has. A name that looks like an option is read as one. -/
def unknownCommand (disk : Disk) (name : Text) (arguments : List Text) : CommandOutcome :=
  match Arguments.read HelpOption.specs false (name :: arguments) with
  | .error e => .misused disk programUsage e
  | .ok read =>
    if read.has .help then .help disk programUsage
    else
      let similar := Text.Resemblance.closest name (Command.all.map fun command => command.name)
      .misused disk programUsage (.noSuchCommand name similar)

/-- The outcome of a command line. Without arguments the help is shown as an error. -/
def runProgram (surroundings : Surroundings) (arguments : List Text) : CommandOutcome :=
  let disk := surroundings.disk
  if arguments.isEmpty then { disk, exitCode := 2, stderr := programUsage.helpText }
  else
    match Arguments.read HelpOption.specs false arguments with
    | .error e => .misused disk programUsage e
    | .ok read =>
      if read.has .help then .help disk programUsage
      else
        match read.operands with
        | [] => .misused disk programUsage .missingCommand
        | name :: rest =>
          match Command.all.find? fun command => name = command.name with
          | some command => command.run surroundings rest
          | none => unknownCommand disk name rest

end FlowDiagram
