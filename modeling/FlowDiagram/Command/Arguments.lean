import FlowDiagram.Command.Usage
import FlowDiagram.Text.Resemblance

/-!
# Command-line arguments

Arguments are options and operands. Options have a long name and possibly a short one; short options
can be combined, and values can follow directly. Everything after two dashes is an operand.

## Main definitions

* `OptionSpec`: an option of a command.
* `Arguments.read`: the options and operands on a command line.
-/

namespace FlowDiagram

/-- An option of a command. -/
structure OptionSpec (ι : Type) where
  key : ι
  long : String
  short : Option Char := none
  takesValue : Bool := false

/-- The names of an option as they are written. -/
def OptionSpec.names {ι : Type} (spec : OptionSpec ι) : List Text :=
  ("--" ++ spec.long) :: (spec.short.map fun c => Text.ofChars ['-', c]).toList

/-- The options on a command line, in order, each with its value (the empty one if it takes none),
and the operands. -/
structure Arguments (ι : Type) where
  options : List (ι × Text) := []
  operands : List Text := []

namespace Arguments

variable {ι : Type}

/-- Adds an operand in front. -/
def addOperand (operand : Text) (arguments : Arguments ι) : Arguments ι :=
  { arguments with operands := operand :: arguments.operands }

/-- The long names of options, as they are written. -/
def longNames (specs : List (OptionSpec ι)) : List Text :=
  specs.map fun spec => Text.ofString ("--" ++ spec.long)

/-- An option that was read, and what it leaves to do. -/
inductive Reading (ι : Type)
  /-- The option is complete. -/
  | complete (options : List (ι × Text))
  /-- The last option takes the next argument as its value. -/
  | needsValue (options : List (ι × Text)) (key : ι) (name : Text)

/-- Reads an argument that starts with two dashes. -/
def readLong (specs : List (OptionSpec ι)) (argument : Text) :
    Except UsageError (Reading ι) :=
  let name := argument.takeWhile (· ≠ .char '=')
  let value := argument.dropWhile (· ≠ .char '=')
  match specs.find? (fun spec => name = "--" ++ spec.long) with
  | none =>
    .error (.noSuchOption name (Text.Resemblance.closest name (longNames specs)))
  | some spec =>
    match value with
    | [] => .ok (if spec.takesValue then .needsValue [] spec.key name
        else .complete [(spec.key, [])])
    | _ :: value =>
      if spec.takesValue then .ok (.complete [(spec.key, value)])
      else .error (.unwantedValue name)

/-- Reads the characters after a single dash: short options, of which the first that takes a value
takes the rest. -/
def readShort (specs : List (OptionSpec ι)) (before : List (ι × Text)) :
    Text → Except UsageError (Reading ι)
  | [] => .ok (.complete before)
  | c :: rest =>
    let name := Text.ofString "-" ++ [c]
    match specs.find? (fun spec => c.char?.isSome && spec.short = c.char?) with
    | none => .error (.noSuchOption name [])
    | some spec =>
      if spec.takesValue then
        if rest.isEmpty then .ok (.needsValue before spec.key name)
        else .ok (.complete (before ++ [(spec.key, rest)]))
      else readShort specs (before ++ [(spec.key, [])]) rest

/-- Reads an argument that starts with a dash. -/
def readOption (specs : List (OptionSpec ι)) (argument : Text) :
    Except UsageError (Reading ι) :=
  match argument with
  | .char '-' :: .char '-' :: _ => readLong specs argument
  | _ => readShort specs [] (argument.drop 1)

/-- Whether an argument is read as an option: a dash with something after it. -/
def isOption : Text → Bool
  | .char '-' :: _ :: _ => true
  | _ => false

/-- Reads the arguments of a command. Operands and options may be mixed only if `mixed`; otherwise
the first operand ends the options. -/
def read (specs : List (OptionSpec ι)) (mixed : Bool) :
    List Text → Except UsageError (Arguments ι)
  | [] => .ok {}
  | [argument] =>
    if argument = "--" then .ok {}
    else if isOption argument then
      match readOption specs argument with
      | .error e => .error e
      | .ok (.complete options) => .ok { options }
      | .ok (.needsValue _ _ name) => .error (.missingValue name)
    else .ok { operands := [argument] }
  | argument :: next :: rest =>
    if argument = "--" then .ok { operands := next :: rest }
    else if isOption argument then
      match readOption specs argument with
      | .error e => .error e
      | .ok (.complete options) =>
        match read specs mixed (next :: rest) with
        | .error e => .error e
        | .ok arguments => .ok { arguments with options := options ++ arguments.options }
      | .ok (.needsValue options key _) =>
        match read specs mixed rest with
        | .error e => .error e
        | .ok arguments =>
          .ok { arguments with options := options ++ (key, next) :: arguments.options }
    else if mixed then
      match read specs mixed (next :: rest) with
      | .error e => .error e
      | .ok arguments => .ok (arguments.addOperand argument)
    else .ok { operands := argument :: next :: rest }

/-- The last value of an option. -/
def value? [DecidableEq ι] (arguments : Arguments ι) (key : ι) : Option Text :=
  (arguments.options.reverse.find? (·.1 = key)).map Prod.snd

/-- Whether an option is given. -/
def has [DecidableEq ι] (arguments : Arguments ι) (key : ι) : Bool :=
  (arguments.value? key).isSome

end Arguments

end FlowDiagram
