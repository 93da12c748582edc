import FlowDiagram.Telemetry.Note
import FlowDiagram.Text.Edit
import FlowDiagram.Text.Lines
import FlowDiagram.Text.Styling

/-!
# Logs

A log is written line by line or as one record per message. A line names the level, the place that
the message comes from, and the message: `LEVEL | place - message`. A log of lines can only be read
line by line, so a message that holds line breaks falls apart: each of its further lines is read as
if it had been written by itself.

Before telemetry starts, messages that are written to the log stand behind the date in such lines,
and of those that are handed over only the text is printed.

## Main definitions

* `LogLine`: a message in the log.
* `LogEntry.ofLine`: the level and the message that a line names.
* `LogLine.entries`: what a message is read back as.
-/

namespace FlowDiagram

/-- How a message is written: in a line, as a record, in a line with the date, or bare. -/
inductive LogFormat
  | lines
  | records
  | dated
  | bare
  deriving DecidableEq, Repr

/-- A message in the log, with its level. -/
structure LogLine where
  level : Level
  note : Note
  format : LogFormat

/-- A message with the name of its level, as it is read from a log. -/
structure LogEntry where
  level : Text
  message : Text
  deriving DecidableEq, Repr

namespace LogEntry

/-- What separates the level from the place. -/
def levelEnd : Text := " | "

/-- What separates the place from the message. -/
def placeEnd : Text := " - "

/-- A text without the blanks at its end. -/
def dropFinalBlanks (text : Text) : Text :=
  (text.reverse.dropWhile Text.isBlank).reverse

/-- What a line says: the level stands before the first separator, and the message behind the
separator after the place. What is missing is empty. -/
def ofLine (line : Text) : LogEntry :=
  let (level, rest) := Text.splitAt levelEnd line
  { level := dropFinalBlanks level, message := (Text.splitAt placeEnd rest).2 }

end LogEntry

namespace LogLine

/-- The sequence behind a message that ends its colour. -/
def colourEnd : Text := "\x1b[0m"

/-- What a message is read back as; `elapsed` is the time that it tells. A record keeps its message
as it is. In a log of lines, a message is coloured: every line of it becomes an entry, the one that
the end of the colour stands on too, and then the colours are left out. Of a bare message every line
is read by itself. -/
def entries (elapsed : String) (line : LogLine) : List LogEntry :=
  let message := line.note.message elapsed
  match line.format with
  | .records => [⟨line.level.name, message⟩]
  | .lines | .dated =>
    match (Text.lines (message ++ colourEnd)).map Text.dropColouring with
    | [] => []
    | first :: others => ⟨line.level.name, first⟩ :: others.map LogEntry.ofLine
  | .bare => (Text.lines message).map LogEntry.ofLine

end LogLine

end FlowDiagram
