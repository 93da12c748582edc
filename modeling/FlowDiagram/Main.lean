import FlowDiagram.Command.Changes
import FlowDiagram.Command.Program

/-!
# The command line

The outer layer of the program: it looks at the files that the arguments may be about, runs the
program on what it has seen, and carries out what comes of it. Nothing can be rendered or opened
from here, and times are not measured: a dash stands in their place.

## Main definitions

* `main`: the program.
-/

namespace FlowDiagram

/-- A text as far as it can be printed: surrogates are replaced. -/
def Text.printed (text : Text) : String :=
  String.ofList (text.map fun c => c.char?.getD '\uFFFD')

/-- A place as it is written. -/
def Place.written (place : Place) : String :=
  Text.printed ("/" ++ Text.joined "/" place)

/-- The places on the way to a place, and the place itself. -/
def Place.prefixes (place : Place) : List Place :=
  (List.range place.length).map fun n => place.take (n + 1)

/-- Reads the node at a place. Only fact files and files that are asked for are read; of others it
is enough to know that they are there. -/
def seeNode (disk : Disk) (place : Place) (reads : Bool) : IO Disk := do
  if (disk.node? place).isSome then return disk
  let path := (← IO.currentDir) / place.written
  if !(← path.pathExists) then return disk
  if ← path.isDir then return disk.put place .folder
  if reads then return disk.put place (.file (← IO.FS.readBinFile path).toList)
  return disk.put place (.file [])

/-- Reads what is below a folder. Links to folders are not entered, as the search for fact files
does not enter them; without them nothing leads back up, so that this ends. -/
partial def seeBelow (disk : Disk) (place : Place) : IO Disk := do
  let path := (← IO.currentDir) / place.written
  if !(← path.isDir) then return disk
  let mut disk := disk
  for entry in ← path.readDir do
    let inner := place ++ [Text.ofString entry.fileName]
    disk ← seeNode disk inner (isFactFileName entry.fileName)
    if (← entry.path.symlinkMetadata).type == .dir then disk ← seeBelow disk inner
  return disk

/-- Reads what a text may be about if it is a path. -/
def seePath (disk : Disk) (text : Text) : IO Disk := do
  let path := Path.ofText text
  let mut disk := disk
  let base := disk.baseOf path.anchor
  for place in Place.prefixes (base ++ path.parts) do
    disk ← seeNode disk place true
  match disk.locate path with
  | .ok place => seeBelow disk place
  | .error _ => return disk

/-- The texts in an argument that may be paths: the argument, and what follows an option in it. -/
def possiblePaths (argument : Text) : List Text :=
  let value := (argument.dropWhile (· ≠ .char '=')).drop 1
  [argument, value, argument.drop 2]

/-- Reads the files that a command line may be about. -/
def seeDisk (environment : Environment) (arguments : List Text) : IO Disk := do
  let home := (segments (← IO.currentDir).toString).filter (· ≠ [])
  let mut disk : Disk := { home, nodes := [] }
  for place in Place.prefixes home do
    disk ← seeNode disk place false
  let texts := (environment.value? "OUTPUT_DIR").toList ++ arguments.flatMap possiblePaths
  for text in texts.filter (· ≠ []) do
    disk ← seePath disk text
  return disk

/-- Reads the variables of this program. -/
def seeEnvironment : IO Environment := do
  let mut environment : Environment := []
  for name in Environment.names do
    let variableName := Environment.family ++ name
    if let some value ← IO.getEnv variableName.printed then
      environment := environment ++ [(variableName, Text.ofString value)]
  return environment

/-- Carries out a change. -/
def Change.carryOut (change : Change) : IO Unit := do
  match change with
  | .makeFolder place => IO.FS.createDirAll (Place.written place)
  | .writeFile place bytes => IO.FS.writeBinFile (Place.written place) ⟨bytes.toArray⟩
  | .removeFile place => IO.FS.removeFile (Place.written place)

/-- A line of the log. -/
def LogLine.text (line : LogLine) : Text :=
  let padding := String.ofList (List.replicate (8 - line.level.name.length) ' ')
  let undated := line.level.name ++ padding ++ " | " ++ line.note.message "-"
  match line.format with
  | .bare => line.note.message "-"
  | .dated => "- | " ++ undated
  | _ => undated

end FlowDiagram

open FlowDiagram in
/-- The program. -/
def main (arguments : List String) : IO UInt32 := do
  let arguments := arguments.map Text.ofString
  let environment ← seeEnvironment
  let disk ← seeDisk environment arguments
  let outcome := runProgram
    { environment, disk, renderer := fun _ _ _ => .unavailable } arguments
  for change in changes disk outcome.disk do
    change.carryOut
  let err ← IO.getStderr
  for line in outcome.lines do
    err.putStrLn line.text.printed
  err.putStr outcome.stderr.printed
  if let some failure := outcome.failure then
    err.putStrLn failure.message.printed
  (← IO.getStdout).putStr outcome.stdout.printed
  return UInt32.ofNat outcome.exitCode
