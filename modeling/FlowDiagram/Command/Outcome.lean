import FlowDiagram.Command.Arguments
import FlowDiagram.Fact.Loading
import FlowDiagram.Flow.Output
import FlowDiagram.Flow.Run
import FlowDiagram.Telemetry.State
import FlowDiagram.Text.Styling

/-!
# Outcomes of commands

What a command finds when it starts, and what it leaves behind. Commands print lines to two outputs.
The error output takes any text; a line that has no bytes cannot be printed to the other one and
ends the command.

## Main definitions

* `Surroundings`: what a command finds.
* `CommandOutcome`: what it leaves behind.
* `CommandOutcome.say`: what a command leaves behind after it has said something.
-/

namespace FlowDiagram

/-- What a command finds when it starts. -/
structure Surroundings where
  environment : Environment
  disk : Disk
  renderer : Renderer
  outages : Outages := []
  telemetry : TelemetryState := .unstarted {}

/-- A failure that no command answers by itself. -/
inductive CommandFailure
  | loading (error : LoadError)
  | writing (error : WriteError)
  | printing (fault : Text.Utf8.Unwritable)

/-- The wording of a failure. -/
def CommandFailure.message : CommandFailure → Text
  | .loading error => error.message
  | .writing error => error.message
  | .printing fault => fault.message

/-- What a command leaves behind: its exit code, its output, the files, the log, the failure that
ended it, and the files that it asks to open. -/
structure CommandOutcome where
  disk : Disk
  exitCode : Nat := 0
  stdout : Text := []
  stderr : Text := []
  lines : List LogLine := []
  failure : Option CommandFailure := none
  launched : List Path := []

/-- What a command says: a line of output, a line of error output, or a message in the log. -/
inductive Remark
  | out (line : Text)
  | err (line : Text)
  | note (note : Note)

/-- A line as it is printed, without styling sequences. -/
def printedLine (line : Text) : Text :=
  Text.dropStyling (line ++ "\n")

/-- A text on the error output: surrogates are written by their numbers. -/
def shownOnError (text : Text) : Text :=
  text.flatMap fun c => if c.isSurrogate then Text.ofChars (Text.numbered c) else [c]

namespace Remark

/-- Why a line of output cannot be printed, if it has no bytes. -/
def fault? : Remark → Option Text.Utf8.Unwritable
  | .out line => Text.Utf8.unwritable? (printedLine line)
  | _ => none

/-- What a remark adds to the output. -/
def output : Remark → Text
  | .out line => printedLine line
  | _ => []

/-- What a remark adds to the error output. -/
def errorOutput : Remark → Text
  | .err line => shownOnError (printedLine line)
  | _ => []

/-- What a remark adds to the log. -/
def logged (telemetry : TelemetryState) : Remark → List LogLine
  | .note message => Telemetry.log telemetry message
  | _ => []

end Remark

namespace CommandOutcome

/-- The outcome after remarks. A line that cannot be printed ends the command, and nothing from it
on is said. -/
def say (telemetry : TelemetryState) (outcome : CommandOutcome) (remarks : List Remark) :
    CommandOutcome :=
  let said := remarks.takeWhile (·.fault?.isNone)
  let outcome := { outcome with
    stdout := outcome.stdout ++ said.flatMap Remark.output
    stderr := outcome.stderr ++ said.flatMap Remark.errorOutput
    lines := outcome.lines ++ said.flatMap (Remark.logged telemetry) }
  match remarks.findSome? Remark.fault? with
  | none => outcome
  | some fault => { outcome with exitCode := 1, failure := some (.printing fault) }

/-- Shows the help of a command. -/
def help (disk : Disk) (usage : Usage) : CommandOutcome :=
  { disk, stdout := usage.helpText }

/-- Answers a wrong command line. -/
def misused (disk : Disk) (usage : Usage) (error : UsageError) : CommandOutcome :=
  { disk, exitCode := 2, stderr := shownOnError (Text.dropStyling (usage.errorText error)) }

/-- Ends a command with an error that is shown. -/
def stopped (disk : Disk) (lines : List LogLine) (message : Text) : CommandOutcome :=
  { disk, exitCode := 1, stderr := shownOnError (printedLine ("Error: " ++ message)), lines }

/-- Ends a command with a failure. -/
def failed (disk : Disk) (lines : List LogLine) (failure : CommandFailure) : CommandOutcome :=
  { disk, exitCode := 1, lines, failure := some failure }

/-- Ends a command whose facts could not be loaded. Only unusable fact files are answered. -/
def notLoaded (disk : Disk) (lines : List LogLine) (error : LoadError) : CommandOutcome :=
  match error with
  | .unusable .. => stopped disk lines error.message
  | _ => failed disk lines (.loading error)

/-- Ends a command with settings that are refused. -/
def misconfigured (disk : Disk) (lines : List LogLine) (error : SettingsError) : CommandOutcome :=
  stopped disk lines ("invalid configuration: " ++ error.message)

end CommandOutcome

/-- Why a command does not start. -/
inductive Refusal
  | usage (error : UsageError)
  | failure (failure : CommandFailure)

/-- The name of the program. -/
def programName : String := "behandling-flow"

/-- Configures telemetry for a command: warnings are logged, or everything if that is wanted. -/
def startLog (surroundings : Surroundings) (verbose : Bool) : Observed Telemetry :=
  Telemetry.configure surroundings.telemetry
    (some { logLevel := .standard (if verbose then .debug else .warning) })

/-- The operand of commands that read facts. -/
def pathName : Text := "PATH"

/-- Reads the single operand of a command: a path that leads somewhere. -/
def readPath (disk : Disk) (operands : List Text) : Except Refusal Path :=
  match operands with
  | [] => .error (.usage (.missingArgument pathName))
  | name :: extra =>
    match disk.findName name with
    | .error e =>
      .error (if e.number?.isSome then .usage (.invalidValue [pathName] (.noSuchPath name))
        else .failure (.loading (.unreachable (.ofText name) e)))
    | .ok _ =>
      if extra.isEmpty then .ok (.ofText name) else .error (.usage (.extraArguments extra))

end FlowDiagram
