import FlowDiagram.Fact.Schema
import FlowDiagram.Files.Disk
import FlowDiagram.Json.Reader
import FlowDiagram.Text.Utf8

/-!
# Loading facts

Fact files are found below a folder by their names, read in the order of their paths, and their
facts are put together in that order. A file that cannot be used stops the loading, with the path
of the file and the reason. The search meets no links and no folders that it may not list.

## Main definitions

* `FactFileReason`, `LoadError`: why facts cannot be loaded, with the wording.
* `FactFile.load`: the facts of one file.
* `discover`: the fact files at a path.
* `FactSet.load`: the facts of several files.
-/

namespace FlowDiagram

/-- Why a fact file cannot be used. -/
inductive FactFileReason
  | unreadable (error : FileError)
  | invalidJson (line : Nat) (fault : Json.Fault)
  | notObject
  | invalidEntries (first : Schema.Flaw) (others : List Schema.Flaw)
  | noSuchPath

/-- The wording of a reason. -/
def FactFileReason.message : FactFileReason → Text
  | .unreadable error => "cannot read file (" ++ error.reason ++ ")"
  | .invalidJson line fault => s!"invalid JSON at line {line}: " ++ fault.message
  | .notObject => "expected a JSON object with 'classes' and 'processors'"
  | .invalidEntries first others => Schema.report first others
  | .noSuchPath => "no such file or directory"

/-- Why facts cannot be loaded: a fact file is unusable, its bytes are no text, it exceeds a limit
of the reader, or its path cannot be looked up at all. -/
inductive LoadError
  | unusable (path : Path) (reason : FactFileReason)
  | undecodable (fault : Text.Utf8.Fault)
  | excessive (excess : Json.Excess)
  | unreachable (path : Path) (error : FileError)

/-- The wording of an error. Folders are made in a call of their own, a search is not: so there is
another wording if it goes too deep. -/
def LoadError.message : LoadError → Text
  | .unusable path reason => path.text ++ ": " ++ reason.message
  | .undecodable fault => fault.message
  | .excessive excess => excess.message
  | .unreachable _ .wayTooLong => "maximum recursion depth exceeded"
  | .unreachable path error => error.account path

/-- The end of the name of every fact file. -/
def factFileEnding : Text := ".facts.json"

/-- The text of a file: its bytes read as UTF-8, with uniform line ends. -/
def decodeText (bytes : List UInt8) : Except LoadError (List Char) :=
  match Text.Utf8.decode bytes with
  | .ok text => .ok (Text.Utf8.unifyNewlines text)
  | .error fault => .error (.undecodable fault)

/-- The facts that a text states, read with room for so many containers inside one another. -/
def FactFile.ofText (room : Nat) (path : Path) (text : List Char) : Except LoadError FactFile :=
  match Json.read room text with
  | .error ⟨.excess excess, _⟩ => .error (.excessive excess)
  | .error stop => .error (.unusable path (.invalidJson (Json.lineOf text stop) stop.fault))
  | .ok (.object members) =>
    match FactFile.ofMembers members with
    | .valid facts => .ok facts
    | .flawed first others => .error (.unusable path (.invalidEntries first others))
  | .ok _ => .error (.unusable path .notObject)

/-- The facts of one file. -/
def FactFile.load (room : Nat) (disk : Disk) (path : Path) : Except LoadError FactFile :=
  match disk.read path with
  | .error e =>
    .error (if e.number?.isSome then .unusable path (.unreadable e) else .unreachable path e)
  | .ok bytes => (decodeText bytes).bind (FactFile.ofText room path)

/-- Whether a file is a fact file, by its name. -/
def isFactFileName (name : Text) : Bool :=
  factFileEnding.isSuffixOf name

/-- Whether parts come before others or are the same, compared one after the other. -/
def partsInOrder : List Text → List Text → Bool
  | [], _ => true
  | _ :: _, [] => false
  | a :: as, b :: bs => if a = b then partsInOrder as bs else decide (a < b)

/-- Sorts paths by their parts. -/
def sortPaths (paths : List Path) : List Path :=
  paths.mergeSort fun a b => partsInOrder a.parts b.parts

/-- Whether names lead to what is called like a fact file. -/
def isFactFilePlace (names : List Text) : Bool :=
  names.getLast?.any isFactFileName

/-- The fact files below a folder, sorted. -/
def factFilesBelow (disk : Disk) (root : Path) (place : Place) : List Path :=
  sortPaths (((disk.filesBelow place).filter isFactFilePlace).map root.descend)

/-- Whether the search for fact files looks up the path of what it comes to: each folder is
searched, and of what is called like a fact file it is asked whether it is a file. -/
def isLookedUp (names : List Text) (node : DiskNode) : Bool :=
  decide (node = .folder) || isFactFilePlace names

/-- Why the search below a folder is broken off: a folder lies deeper than there is room for, or a
path that is looked up is too long. -/
def searchFault? (room : Nat) (disk : Disk) (root : Path) (place : Place) : Option LoadError :=
  let found := disk.below place
  if found.any fun (names, node) => decide (node = .folder ∧ room < names.length) then
    some (.unreachable root .wayTooLong)
  else
    (found.find? fun (names, node) => isLookedUp names node &&
        decide (Disk.longestPath < Text.Raw.size (root.descend names).text)).map
      fun (names, _) => .unreachable (root.descend names) .nameTooLong

/-- How many folders a search goes down if nothing but the search itself is under way. -/
def searchRoom : Nat := 988

/-- The fact files at a path: the file itself, or the fact files below the folder. There is room for
so many folders inside one another. -/
def discover (disk : Disk) (root : Path) (room : Nat := searchRoom) :
    Except LoadError (List Path) :=
  match disk.locate root with
  | .error .nameTooLong => .error (.unreachable root .nameTooLong)
  | .error _ => .error (.unusable root .noSuchPath)
  | .ok place =>
    match disk.node? place with
    | none => .error (.unusable root .noSuchPath)
    | some (.file _) => .ok [root]
    | some .folder =>
      match searchFault? room disk root place with
      | some fault => .error fault
      | none => .ok (factFilesBelow disk root place)

/-- Facts in the order of their declaration, and the files they come from. -/
structure FactSet where
  classes : List ClassFact := []
  processors : List ProcessorFact := []
  sources : List Path := []

/-- Adds the facts of a file. -/
def FactSet.extend (facts : FactSet) (file : FactFile) (source : Path) : FactSet :=
  { classes := facts.classes ++ file.classes
    processors := facts.processors ++ file.processors
    sources := facts.sources ++ [source] }

/-- Loads files one after the other. The result also tells what was loaded before an unusable
file: each file with the facts in it. -/
def loadFiles (room : Nat) (disk : Disk) :
    List Path → List (Path × FactFile) × Option LoadError
  | [] => ([], none)
  | path :: paths =>
    match FactFile.load room disk path with
    | .error e => ([], some e)
    | .ok file =>
      let (files, error) := loadFiles room disk paths
      ((path, file) :: files, error)

/-- Puts the facts of several files together. -/
def FactSet.ofFiles (files : List (Path × FactFile)) : FactSet :=
  files.foldl (fun facts (path, file) => facts.extend file path) {}

/-- The facts of several files, in the given order. -/
def FactSet.load (room : Nat) (disk : Disk) (paths : List Path) : Except LoadError FactSet :=
  match loadFiles room disk paths with
  | (files, none) => .ok (.ofFiles files)
  | (_, some e) => .error e

end FlowDiagram
