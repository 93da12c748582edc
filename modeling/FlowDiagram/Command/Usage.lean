import FlowDiagram.Text.Raw

/-!
# Usage errors

What can be wrong with a command line, and how it is answered. Most errors are shown below the usage
of the command; an option that lacks its value, or has one too many, is shown by itself.

## Main definitions

* `UsageError`: what is wrong with a command line.
* `UsageError.message`: its wording.
-/

namespace FlowDiagram

/-- What is wrong with a value on the command line. -/
inductive ValueProblem
  | notOneOf (value : Text) (choices : List Text)
  | belowMinimum (value minimum : Int)
  | notInteger (value : Text)
  | noSuchPath (value : Text)
  | notFolder (value : Text)
  deriving DecidableEq, Repr

/-- The wording of what is wrong with a value. -/
def ValueProblem.message : ValueProblem → Text
  | .notOneOf value choices =>
    Text.quoted value ++ " is not one of " ++ Text.joined ", " (choices.map Text.quoted) ++ "."
  | .belowMinimum value minimum => s!"{value} is not in the range x>={minimum}."
  | .notInteger value => Text.quoted value ++ " is not a valid integer range."
  | .noSuchPath value => "Path " ++ Text.quoted (Text.Raw.shown value) ++ " does not exist."
  | .notFolder value => "Directory " ++ Text.quoted (Text.Raw.shown value) ++ " is a file."

/-- What is wrong with a command line. -/
inductive UsageError
  | noSuchOption (name : Text) (similar : List Text)
  | noSuchCommand (name : Text) (similar : List Text)
  | missingCommand
  | missingValue (option : Text)
  | unwantedValue (option : Text)
  | missingArgument (name : Text)
  | invalidValue (parameter : List Text) (problem : ValueProblem)
  | extraArguments (arguments : List Text)
  deriving DecidableEq, Repr

namespace UsageError

/-- The offer of words that may have been meant. -/
def offer : List Text → Text
  | [] => []
  | [word] => " Did you mean " ++ Text.quoted word ++ "?"
  | words => " (Did you mean one of: " ++ Text.joined ", " (words.map Text.quoted) ++ "?)"

/-- The wording of what is wrong. -/
def message : UsageError → Text
  | .noSuchOption name similar => "No such option " ++ Text.quoted name ++ "." ++ offer similar
  | .noSuchCommand name similar => "No such command " ++ Text.quoted name ++ "." ++ offer similar
  | .missingCommand => "Missing command."
  | .missingValue option => "Option " ++ Text.quoted option ++ " requires an argument."
  | .unwantedValue option => "Option " ++ Text.quoted option ++ " does not take a value."
  | .missingArgument name => "Missing argument " ++ Text.quoted name ++ "."
  | .invalidValue parameter problem =>
    "Invalid value for " ++ Text.joined " / " (parameter.map Text.quoted) ++ ": " ++
      problem.message
  | .extraArguments [argument] => "Got unexpected extra argument (" ++ argument ++ ")"
  | .extraArguments arguments =>
    "Got unexpected extra arguments (" ++ Text.joined " " arguments ++ ")"

/-- Whether the error is shown without the usage of the command. -/
def isBare : UsageError → Bool
  | .missingValue _ | .unwantedValue _ => true
  | _ => false

end UsageError

/-- A command as it is called: its name, what follows it, and its help. -/
structure Usage where
  command : String
  parameters : String
  help : List String
  deriving DecidableEq, Repr

namespace Usage

/-- The line that shows how a command is called. -/
def line (usage : Usage) : String :=
  s!"Usage: {usage.command} {usage.parameters}\n"

/-- The help of a command. -/
def helpText (usage : Usage) : String :=
  usage.line ++ String.join (usage.help.map (· ++ "\n"))

/-- How an error is shown. -/
def errorText (usage : Usage) (error : UsageError) : Text :=
  let answer := "Error: " ++ error.message ++ "\n"
  if error.isBare then answer
  else usage.line ++ s!"Try '{usage.command} --help' for help.\n\n" ++ answer

end Usage

end FlowDiagram
