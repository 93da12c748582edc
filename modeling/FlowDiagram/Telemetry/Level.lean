import FlowDiagram.Text.Basic

/-!
# Log levels

How important a log message is. Seven levels have names; a message may also be logged under a bare
number.

## Main definitions

* `Level`: a level with its severity.
* `Level.named?`: the level of a name.
* `Level.ofNumber?`: the level that a number means.
* `LevelChoice`: a level as it is asked for.
-/

namespace FlowDiagram

/-- A log level. Only messages from some severity on are shown. -/
structure Level where
  name : Text
  severity : Nat
  deriving DecidableEq, Repr

namespace Level

def debug : Level := ⟨"DEBUG", 10⟩
def info : Level := ⟨"INFO", 20⟩
def warning : Level := ⟨"WARNING", 30⟩
def error : Level := ⟨"ERROR", 40⟩
def critical : Level := ⟨"CRITICAL", 50⟩

/-- The levels that a configuration offers. -/
def standard : List Level := [debug, info, warning, error, critical]

/-- All levels with a name. -/
def named : List Level :=
  [⟨"TRACE", 5⟩, debug, info, ⟨"SUCCESS", 25⟩, warning, error, critical]

/-- The level of a name. -/
def named? (name : Text) : Option Level :=
  named.find? (·.name = name)

/-- The level that a number means. Numbers between the standard levels are shown as they are, and
numbers that are not positive never reach the log. -/
def ofNumber? (number : Int) : Option Level :=
  if number ≤ 0 then none
  else
    some ((standard.find? (·.severity = number.toNat)).getD
      ⟨s!"Level {number}", number.toNat⟩)

end Level

/-- A level as it is asked for: by a name, which may be unknown, or as one of the standard
levels. -/
inductive LevelChoice
  | named (name : Text)
  | standard (level : Level)
  deriving DecidableEq, Repr

namespace LevelChoice

/-- The name of the level. -/
def name : LevelChoice → Text
  | .named name => name
  | .standard level => level.name

/-- How a choice is shown in messages. -/
def text : LevelChoice → Text
  | .named name => name
  | .standard level => "LogLevel." ++ level.name

/-- The level, if there is one of that name. -/
def level? (choice : LevelChoice) : Option Level :=
  Level.named? choice.name

end LevelChoice

end FlowDiagram
