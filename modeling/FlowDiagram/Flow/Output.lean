import FlowDiagram.Files.Disk
import FlowDiagram.Flow.ImageFormat
import FlowDiagram.Flow.Result
import FlowDiagram.Flow.Settings
import FlowDiagram.Telemetry.Note

/-!
# Writing diagrams

Every flow that could be drawn is written as a DOT file. Unless DOT is the wanted format, the file
is rendered as an image next to it and removed again, if it is not to be kept. A flow that cannot be
rendered keeps its DOT file and gets a warning. While there is nothing that could render it, only
known formats are let through; an unknown one ends the writing. What is written to a file is found
in no other one, as there are no links.

## Main definitions

* `Renderer`: what makes images of diagrams.
* `writeFlow`: writes the files of one flow.
* `writeOutputs`: writes the files of all flows.
-/

namespace FlowDiagram

/-- What came of rendering a diagram. -/
inductive Rendering
  /-- There is nothing that could render it. -/
  | unavailable
  /-- Rendering failed with an error text. -/
  | failed (stderr : Text)
  /-- The text of the image. -/
  | image (content : Text)

/-- What makes images of diagrams: from a format, and the path and the text of a DOT file. -/
abbrev Renderer := Text → Path → Text → Rendering

/-- What ends the writing: a file operation that failed, with its path, an image that would take the
place of its own DOT file, or an image format that there is not. -/
inductive WriteError
  | file (path : Path) (error : FileError)
  | sameFile (image dot : Text)
  | unknownFormat (format : Text)
  deriving DecidableEq, Repr

namespace WriteError

/-- The wording of an error. -/
def message : WriteError → Text
  | .file path error => error.account path
  | .sameFile image dot =>
    "outfile " ++ Text.quoted image ++ " must be different from input file " ++ Text.quoted dot ++
      " (pass overwrite_filepath=True to override)"
  | .unknownFormat format => ImageFormat.unknownMessage format

/-- Whether the system has refused a file operation. -/
def isRefusal : WriteError → Bool
  | .file _ error => error.number?.isSome
  | .sameFile .. | .unknownFormat _ => false

end WriteError

/-- The files and a result after writing, what was reported, and the error that ended it. -/
structure Written where
  disk : Disk
  result : FlowResult
  events : List Event
  error : Option WriteError := none

/-- The format in which only the DOT file is written. -/
def dotFormat : Text := "dot"

/-- The warning about a missing renderer. -/
def unavailableWarning : Text :=
  "Graphviz 'dot' executable not found; kept DOT file"

/-- The warning about a failed rendering. -/
def failedWarning (format stderr : Text) : Text :=
  let cause : Text :=
    if stderr.isEmpty then "Command '['dot']' returned non-zero exit status 1. [stderr: '']"
    else stderr
  "Graphviz failed to render " ++ format ++ ": " ++ cause

/-- The path of one of the files of a flow. -/
def outputPath (folder : Path) (result : FlowResult) (format : Text) : Path :=
  folder.child (result.fileStem ++ "." ++ format)

namespace Written

/-- Ends the writing of a flow with a warning; its DOT file stays. -/
def warn (disk : Disk) (result : FlowResult) (warning : Text) : Written :=
  { disk
    result := { result with warnings := result.warnings ++ [warning] }
    events := [.span, .note (.notRendered result.flow warning)] }

/-- Writes the image of a flow and removes the DOT file, unless it is kept. -/
def addImage (settings : FlowSettings) (disk : Disk) (result : FlowResult) (dot image : Path)
    (content : Text) : Written :=
  match disk.writeText image content with
  | (disk, .error e) => { disk, result, events := [.span], error := some (.file image e) }
  | (disk, .ok ()) =>
    let result := { result with output := some image }
    if settings.keepDot then { disk, result, events := [.span] }
    else
      match disk.remove dot with
      | .error e => { disk, result, events := [.span], error := some (.file dot e) }
      | .ok disk => { disk, result, events := [.span] }

/-- What keeps a DOT file from being rendered even if there were something to render it: the image
has the place of the DOT file, its path cannot be looked up, or there is no such format. An image in
the folder of its DOT file is not looked up unless it has the same name. -/
def objection? (disk : Disk) (format : Text) (dot image : Path) : Option WriteError :=
  let isNamesake := image.name = dot.name
  let refusal? := if isNamesake || image.parent ≠ dot.parent then Disk.refusal? image else none
  match refusal? with
  | some e => some (.file image e)
  | none =>
    if isNamesake && disk.leveled image = disk.leveled dot then
      some (.sameFile image.name dot.name)
    else if ImageFormat.isKnown format then none
    else some (.unknownFormat format)

/-- Renders the DOT file of a flow. -/
def render (settings : FlowSettings) (renderer : Renderer) (disk : Disk) (folder : Path)
    (result : FlowResult) (dot : Path) : Written :=
  let image := outputPath folder result settings.outputFormat
  match renderer settings.outputFormat dot (result.dot.getD []) with
  | .unavailable =>
    match objection? disk settings.outputFormat dot image with
    | none => warn disk result unavailableWarning
    | some e => { disk, result, events := [.span], error := some e }
  | .failed stderr => warn disk result (failedWarning settings.outputFormat stderr)
  | .image content => addImage settings disk result dot image content

/-- Reports the file that was written, unless writing has failed. -/
def finish (written : Written) : Written :=
  match written.error, written.result.output with
  | none, some path => { written with events := written.events ++ [.note (.wrote path)] }
  | _, _ => written

end Written

/-- Writes the files of one flow into a folder. -/
def writeFlow (settings : FlowSettings) (renderer : Renderer) (folder : Path) (disk : Disk)
    (result : FlowResult) : Written :=
  let dot := outputPath folder result dotFormat
  match disk.writeText dot (result.dot.getD []) with
  | (disk, .error e) => { disk, result, events := [], error := some (.file dot e) }
  | (disk, .ok ()) =>
    let result := { result with output := some dot }
    if settings.outputFormat = dotFormat then Written.finish { disk, result, events := [] }
    else (Written.render settings renderer disk folder result dot).finish

/-- The files and results after writing several flows, the paths written, what was reported, and the
error that ended it. -/
structure Outputs where
  disk : Disk
  results : List FlowResult
  paths : List Path := []
  events : List Event := []
  error : Option WriteError := none

/-- Writes the files of flows, one after the other, up to the first error. Flows that could not be
drawn stay as they are. -/
def writeFlows (settings : FlowSettings) (renderer : Renderer) (folder : Path) :
    Disk → List FlowResult → Outputs
  | disk, [] => { disk, results := [] }
  | disk, result :: results =>
    if result.isSuccess then
      let written := writeFlow settings renderer folder disk result
      match written.error with
      | some e =>
        { disk := written.disk, results := written.result :: results,
          events := written.events, error := some e }
      | none =>
        let rest := writeFlows settings renderer folder written.disk results
        { rest with
          results := written.result :: rest.results
          paths := written.result.output.toList ++ rest.paths
          events := written.events ++ rest.events }
    else
      let rest := writeFlows settings renderer folder disk results
      { rest with results := result :: rest.results }

/-- The folder that files are written to. -/
def outputFolder (settings : FlowSettings) (disk : Disk) : Path :=
  settings.outputFolder.getD { anchor := .root, parts := disk.home }

/-- Writes the files of all flows into the output folder, which is made if it is missing. There is
room for so many missing folders on the way to it. -/
def writeOutputs (settings : FlowSettings) (renderer : Renderer) (room : Nat) (disk : Disk)
    (summary : RunSummary) : Outputs :=
  let folder := outputFolder settings disk
  match disk.makeFolders room folder with
  | (disk, .error (path, e)) => { disk, results := summary.results, error := some (.file path e) }
  | (disk, .ok ()) => writeFlows settings renderer folder disk summary.results

end FlowDiagram
