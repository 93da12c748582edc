import FlowDiagram.Files.Path
import FlowDiagram.Text.Raw

/-!
# Files and folders

The files and folders that a run can see, and what reading and writing does to them. A place on
the disk is given by the names that lead to it from the root; paths are resolved to places from
the working folder on, name by name. Names that stand for the same bytes are one name; the names of
a place are settled, while a path keeps the names that were given. A path that has no bytes, holds a
NUL or is too long is refused as a whole, before any of its names is looked up.

A disk holds files and folders only. There are no links, so that every file has one place and every
place leads to itself, and nothing is kept from being listed, searched, read or written.

## Main definitions

* `Disk`: files and folders by place, and the working folder.
* `FileError`: why a file operation fails.
* `Disk.read`, `Disk.write`, `Disk.remove`, `Disk.makeFolders`: the operations.
-/

namespace FlowDiagram

/-- A place: the settled names that lead to it from the root. -/
abbrev Place := List Text

/-- Whether two places are the same. Most are told apart by their depths alone. -/
def Place.same (a b : Place) : Bool :=
  a.length == b.length && a == b

theorem Place.same_eq (a b : Place) : Place.same a b = decide (a = b) := by
  by_cases h : a = b <;> simp [Place.same, h]

/-- What stands at a place. There are no links and no other kinds of entries. -/
inductive DiskNode
  | file (bytes : List UInt8)
  | folder
  deriving DecidableEq, Repr

/-- Why a file operation fails. It is never for lack of permission, as everything is permitted, nor
for links that lead in a circle. -/
inductive FileError
  | notFound
  | alreadyExists
  | notFolder
  | isFolder
  | nameTooLong
  | wayTooLong
  | nulCharacter
  | unwritable (fault : Text.Utf8.Unwritable)
  deriving DecidableEq, Repr

namespace FileError

/-- The number of an error, unless the system does not see what it is about. -/
def number? : FileError → Option Nat
  | .notFound => some 2
  | .alreadyExists => some 17
  | .notFolder => some 20
  | .isFolder => some 21
  | .nameTooLong => some 36
  | .wayTooLong | .nulCharacter | .unwritable _ => none

/-- The wording of an error. -/
def reason : FileError → Text
  | .notFound => "No such file or directory"
  | .alreadyExists => "File exists"
  | .notFolder => "Not a directory"
  | .isFolder => "Is a directory"
  | .nameTooLong => "File name too long"
  | .wayTooLong => "maximum recursion depth exceeded while calling a Python object"
  | .nulCharacter => "embedded null byte"
  | .unwritable fault => fault.message

/-- The account of an error at a path, which is not shown when the system does not see it. -/
def account (error : FileError) (path : Path) : Text :=
  match error.number? with
  | some number => s!"[Errno {number}] " ++ error.reason ++ ": " ++ Text.quoted path.text
  | none => error.reason

end FileError

/-- Files and folders by place, the latest first, and the working folder. -/
structure Disk where
  home : Place
  nodes : List (Place × DiskNode)
  deriving Repr

namespace Disk

/-- What stands at a place. The root is always there. -/
def node? (disk : Disk) (place : Place) : Option DiskNode :=
  if place.isEmpty then some .folder
  else (disk.nodes.find? fun entry => Place.same entry.1 place).map Prod.snd

/-- The longest name that a file can have, in bytes. -/
def longestName : Nat := 255

/-- The longest path that can be looked up, in bytes. -/
def longestPath : Nat := 4095

/-- Refuses a path as it is written that cannot be looked up, whatever is on the disk. -/
def screen (name : Text) : Except FileError Unit :=
  match Text.Raw.unwritable? name with
  | some fault => .error (.unwritable fault)
  | none =>
    if name.contains '\x00' then .error .nulCharacter
    else if longestPath < Text.Raw.size name then .error .nameTooLong
    else .ok ()

/-- The place that names lead to from another one. Every place on the way has to be a folder; the
last one need not exist. -/
def locateFrom (disk : Disk) : Place → List Text → Except FileError Place
  | place, [] => .ok place
  | place, name :: names =>
    match disk.node? place with
    | none => .error .notFound
    | some (.file _) => .error .notFolder
    | some .folder =>
      if name = "." then locateFrom disk place names
      else if name = ".." then locateFrom disk place.dropLast names
      else if longestName < Text.Raw.size name then .error .nameTooLong
      else locateFrom disk (place ++ [Text.Raw.settled name]) names

/-- The place a path starts from. -/
def baseOf (disk : Disk) (anchor : Anchor) : Place :=
  if anchor = .relative then disk.home else []

/-- The place of a path. -/
def locate (disk : Disk) (path : Path) : Except FileError Place := do
  screen path.text
  disk.locateFrom (disk.baseOf path.anchor) path.parts

/-- The place of a path by its names alone, whatever is on the disk: two dots undo the name before
them. -/
def leveled (disk : Disk) (path : Path) : Place :=
  path.parts.foldl
    (fun place (name : Text) => if name = ".." then place.dropLast else place ++ [name])
    (disk.baseOf path.anchor)

/-- Why a path cannot be passed on to the system at all. -/
def refusal? (path : Path) : Option FileError :=
  match screen path.text with
  | .error e => if e.number?.isNone then some e else none
  | .ok () => none

/-- What stands at a path. -/
def find (disk : Disk) (path : Path) : Except FileError DiskNode := do
  let place ← disk.locate path
  match disk.node? place with
  | some node => pure node
  | none => throw .notFound

/-- What stands at a path name as it is written: the empty name leads nowhere, and a slash at the
end asks for a folder. -/
def findName (disk : Disk) (name : Text) : Except FileError DiskNode := do
  if name.isEmpty then throw .notFound
  screen name
  let parts := (segments name).filter (· ≠ [])
  let names := if name.getLast? = some (.char '/') then parts ++ [Text.ofString "."] else parts
  let place ← disk.locateFrom (disk.baseOf (Path.anchorOf name)) names
  match disk.node? place with
  | some node => pure node
  | none => throw .notFound

/-- Whether a folder stands at a path. -/
def isFolder (disk : Disk) (path : Path) : Bool :=
  match disk.find path with
  | .ok .folder => true
  | _ => false

/-- The bytes of the file at a path. -/
def read (disk : Disk) (path : Path) : Except FileError (List UInt8) := do
  match ← disk.find path with
  | .file bytes => pure bytes
  | .folder => throw .isFolder

/-- Puts a node at a place where nothing stands. -/
def add (disk : Disk) (place : Place) (node : DiskNode) : Disk :=
  { disk with nodes := (place, node) :: disk.nodes }

/-- What is left of a disk when nothing stands at a place any more. -/
def clear (disk : Disk) (place : Place) : Disk :=
  { disk with nodes := disk.nodes.filter fun entry => !Place.same entry.1 place }

/-- Puts a node at a place, whatever stands there. -/
def put (disk : Disk) (place : Place) (node : DiskNode) : Disk :=
  (disk.clear place).add place node

theorem node?_clear (disk : Disk) {place other : Place} (h : other ≠ []) :
    (disk.clear place).node? other = if place = other then none else disk.node? other := by
  have differs (entry : Place × DiskNode) :
      (!Place.same entry.1 place && Place.same entry.1 other) =
        (decide (place ≠ other) && Place.same entry.1 other) := by
    by_cases same : entry.1 = other <;> simp [Place.same_eq, same, eq_comm]
  by_cases same : place = other <;> simp [node?, clear, List.find?_filter, differs, same, h]

theorem node?_put (disk : Disk) {place other : Place} (node : DiskNode) (h : other ≠ []) :
    (disk.put place node).node? other = if place = other then some node else disk.node? other := by
  have cleared := @node?_clear disk place other h
  by_cases same : place = other <;> simp_all [node?, put, add, Place.same_eq]

/-- Writes the file at a path, in a folder that has to be there. -/
def write (disk : Disk) (path : Path) (bytes : List UInt8) : Except FileError Disk := do
  let place ← disk.locate path
  match disk.node? place with
  | some .folder => throw .isFolder
  | some (.file _) => pure (disk.put place (.file bytes))
  | none =>
    match disk.node? place.dropLast with
    | some .folder => pure (disk.put place (.file bytes))
    | some (.file _) => throw .notFolder
    | none => throw .notFound

/-- Writes a text as the file at a path. A text that has no bytes leaves the file empty. -/
def writeText (disk : Disk) (path : Path) (text : Text) : Disk × Except FileError Unit :=
  match Text.Utf8.encode text with
  | .ok bytes =>
    match disk.write path bytes with
    | .ok disk => (disk, .ok ())
    | .error e => (disk, .error e)
  | .error fault =>
    match disk.write path [] with
    | .ok disk => (disk, .error (.unwritable fault))
    | .error e => (disk, .error e)

/-- Removes the file at a path. -/
def remove (disk : Disk) (path : Path) : Except FileError Disk := do
  let place ← disk.locate path
  match disk.node? place with
  | none => throw .notFound
  | some .folder => throw .isFolder
  | some (.file _) => pure (disk.clear place)

/-- Makes the folder at a place unless it is there, and gives back the place. A file in the way is
an error. -/
def ensureFolder (disk : Disk) (place : Place) : Except FileError (Disk × Place) :=
  match disk.node? place with
  | some .folder => .ok (disk, place)
  | some (.file _) => .error .alreadyExists
  | none => .ok (disk.add place .folder, place)

/-- Makes the folder of a name in another folder unless it is there. -/
def ensureFolderIn (disk : Disk) (folder : Place) (name : Text) :
    Except FileError (Disk × Place) :=
  (disk.locateFrom folder [name]).bind disk.ensureFolder

/-- What comes of an attempt to make a folder at a path: an error leaves the disk as it was. -/
def attempt (disk : Disk) (path : Path) :
    Except FileError (Disk × Place) → Disk × Except (Path × FileError) Place
  | .ok (disk, place) => (disk, .ok place)
  | .error e => (disk, .error (path, e))

/-- Makes a folder and all folders on the way to it, as far as they are missing, and gives back its
place. There is room for so many missing folders. An error names the path that could not be made;
the folders on the way to that path stay. -/
def makeWay (disk : Disk) : (room : Nat) → Path → Disk × Except (Path × FileError) Place
  | 0, path => (disk, .error (path, .wayTooLong))
  | room + 1, path =>
    match disk.locate path, path.parts.getLast? with
    | .ok place, _ => disk.attempt path (disk.ensureFolder place)
    | .error .notFound, some name =>
      match makeWay disk room path.parent with
      | (disk, .error e) => (disk, .error e)
      | (disk, .ok folder) => disk.attempt path (disk.ensureFolderIn folder name)
    | .error e, _ => (disk, .error (path, e))

/-- Makes a folder and all folders on the way to it, as far as they are missing and there is room
for them. -/
def makeFolders (disk : Disk) (room : Nat) (path : Path) :
    Disk × Except (Path × FileError) Unit :=
  let (disk, answer) := disk.makeWay room path
  (disk, answer.map fun _ => ())

/-- What stands below a place, each with the names that lead to it from there. -/
def below (disk : Disk) (place : Place) : List (Place × DiskNode) :=
  disk.nodes.filterMap fun (location, node) =>
    if place.isPrefixOf location && place.length < location.length then
      some (location.drop place.length, node)
    else none

/-- The files below a place, each with the names that lead to it from there. -/
def filesBelow (disk : Disk) (place : Place) : List Place :=
  (disk.below place).filterMap fun (names, node) =>
    match node with
    | .folder => none
    | .file _ => some names

end Disk

end FlowDiagram
