import FlowDiagram.Diagram.Options
import FlowDiagram.Files.Path
import FlowDiagram.Text.Integer
import FlowDiagram.Text.Raw

/-!
# Settings of a run

What may be chosen about a run: how diagrams are drawn, where and in which format they are written,
and which classes start a flow. Settings can be taken from environment variables; a variable that
is missing leaves the setting at its default.

## Main definitions

* `FlowSettings`: the settings of a run.
* `Environment.ofVariables`: the variables that can be set.
* `FlowSettings.ofEnvironment`: the settings that environment variables ask for.
* `SettingsError`: why they are refused.
-/

namespace FlowDiagram

/-- The settings of a run. Without an output folder, files are written to the working folder. -/
structure FlowSettings where
  drawing : DrawingOptions := {}
  outputFolder : Option Path := none
  outputFormat : Text := "svg"
  keepDot : Bool := false
  openOutput : Bool := false
  entrySupertype : Option Text := none
  workers : Nat := 1
  deriving DecidableEq, Repr

/-- Environment variables with their values. -/
abbrev Environment := List (Text × Text)

/-- Why settings are refused. -/
inductive SettingsError
  | notInteger (variableName value : Text)
  | threshold (error : ThresholdError)
  | noWorkers (variableName : Text) (count : Int)
  deriving DecidableEq, Repr

/-- The wording of a refusal. -/
def SettingsError.message : SettingsError → Text
  | .notInteger variableName value =>
    variableName ++ " must be an integer (got " ++ Text.quoted value ++ ")"
  | .threshold error => error.message
  | .noWorkers variableName count => variableName ++ s!" must be >= 1 (got {count})"

/-- Why a variable cannot have a value: one of them has no bytes or holds a NUL, the name holds the
sign between names and values, or there is no name. -/
inductive VariableError
  | unwritable (fault : Text.Utf8.Unwritable)
  | nulCharacter
  | illegalName
  | noName
  deriving DecidableEq, Repr

/-- The wording of an error. -/
def VariableError.message : VariableError → Text
  | .unwritable fault => fault.message
  | .nulCharacter => "embedded null byte"
  | .illegalName => "illegal environment variable name"
  | .noName => "[Errno 22] Invalid argument"

namespace Environment

/-- Why a variable cannot have a value. -/
def refusal? (name value : Text) : Option VariableError :=
  match (Text.Raw.unwritable? name).or (Text.Raw.unwritable? value) with
  | some fault => some (.unwritable fault)
  | none =>
    if name.contains '\x00' || value.contains '\x00' then some .nulCharacter
    else if name.contains '=' then some .illegalName
    else if name.isEmpty then some .noName
    else none

/-- The environment with the given variables, unless one of them cannot have its value. Names and
values are settled, as the system knows them by their bytes. -/
def ofVariables (given : List (Text × Text)) : Except VariableError Environment :=
  match given.findSome? fun (name, value) => refusal? name value with
  | some e => .error e
  | none => .ok (given.map fun (name, value) => (Text.Raw.settled name, Text.Raw.settled value))

/-- What all variables of this program begin with. -/
def family : Text := "BEHANDLING_FLOW_"

/-- The variables of this program, without what they begin with. -/
def names : List Text :=
  ["SHOW_CONDITIONS", "SHOW_LEGEND", "EDGE_STYLE", "DEDUPLICATE", "SUMMARY_THRESHOLD",
    "BOLD_THRESHOLD", "WORKERS", "OUTPUT_DIR", "FORMAT", "KEEP_DOT", "SUPERTYPE"]

/-- The value of one of the variables of this program. -/
def value? (environment : Environment) (name : Text) : Option Text :=
  environment.lookup (family ++ name)

/-- The words that switch a setting on. -/
def onWords : List Text := ["1", "true", "yes", "on"]

/-- Whether a value switches a setting on, whatever its case and the blanks around it. -/
def isOn (value : Text) : Bool :=
  onWords.contains (Text.lowerAscii (Text.trim value))

/-- A setting that is on or off. Any value but the words for on means off. -/
def flag (environment : Environment) (name : Text) (fallback : Bool) : Bool :=
  ((environment.value? name).map isOn).getD fallback

/-- A setting that is an integer. A blank value means the fallback. -/
def integer (environment : Environment) (name : Text) (fallback : Int) :
    Except SettingsError Int :=
  match environment.value? name with
  | none => .ok fallback
  | some value =>
    if (Text.trim value).isEmpty then .ok fallback
    else
      match Text.readInteger value with
      | some n => .ok n
      | none => .error (.notInteger (family ++ name) value)

/-- A setting that counts only when it is not empty. -/
def nonEmpty? (environment : Environment) (name : Text) : Option Text :=
  (environment.value? name).filter (· ≠ [])

/-- The drawing options that the variables ask for. -/
def drawing (environment : Environment) : Except SettingsError DrawingOptions := do
  let summary ← environment.integer "SUMMARY_THRESHOLD" 2
  let bold ← environment.integer "BOLD_THRESHOLD" 4
  let options := { DrawingOptions.standard with
    showConditions := environment.flag "SHOW_CONDITIONS" false
    showLegend := environment.flag "SHOW_LEGEND" false
    routing := Routing.ofName ((environment.value? "EDGE_STYLE").getD Routing.straight.name)
    deduplicate := environment.flag "DEDUPLICATE" true }
  match options.withThresholds summary bold with
  | .ok options => pure options
  | .error e => throw (.threshold e)

/-- The number of workers that the variables ask for. -/
def workers (environment : Environment) : Except SettingsError Nat := do
  let count ← environment.integer "WORKERS" 1
  if count < 1 then throw (.noWorkers (family ++ "WORKERS") count)
  pure count.toNat

end Environment

/-- The settings that environment variables ask for. -/
def FlowSettings.ofEnvironment (environment : Environment) : Except SettingsError FlowSettings := do
  let drawing ← environment.drawing
  let workers ← environment.workers
  pure {
    drawing
    outputFolder := (environment.nonEmpty? "OUTPUT_DIR").map Path.ofText
    outputFormat := (environment.value? "FORMAT").getD "svg"
    keepDot := environment.flag "KEEP_DOT" false
    entrySupertype := environment.nonEmpty? "SUPERTYPE"
    workers }

end FlowDiagram
