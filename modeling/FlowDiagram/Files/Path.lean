import FlowDiagram.Text.Basic

/-!
# Paths

A path is absolute or relative and has parts. Empty parts and single dots are dropped when a path
is read, double dots are kept. Two slashes at the front, but not three, are kept as they are.

## Main definitions

* `Path.ofText`, `Path.text`: reading and writing a path.
* `Path.join`: a path seen from another one.
* `segments`: the parts of a path name as it is written.
-/

namespace FlowDiagram

/-- The parts of a text between slashes, empty ones included; `part` is the reverse of what has
been read of the current one. -/
def segmentsFrom (part : Text) : Text → List Text
  | [] => [part.reverse]
  | c :: rest =>
    if c = '/' then part.reverse :: segmentsFrom [] rest
    else segmentsFrom (c :: part) rest

/-- The parts of a text between slashes, empty ones included. -/
def segments (text : Text) : List Text :=
  segmentsFrom [] text

/-- Where a path starts. -/
inductive Anchor
  | relative
  | root
  | doubleRoot
  deriving DecidableEq, Repr

/-- How an anchor is written. -/
def Anchor.text : Anchor → String
  | .relative => ""
  | .root => "/"
  | .doubleRoot => "//"

/-- A path: its anchor and its parts. -/
structure Path where
  anchor : Anchor
  parts : List Text
  deriving DecidableEq, Repr

namespace Path

/-- The anchor of a path name. -/
def anchorOf : Text → Anchor
  | .char '/' :: .char '/' :: .char '/' :: _ => .root
  | .char '/' :: .char '/' :: _ => .doubleRoot
  | .char '/' :: _ => .root
  | _ => .relative

/-- Reads a path. -/
def ofText (text : Text) : Path :=
  { anchor := anchorOf text
    parts := (segments text).filter fun part => part ≠ [] && part ≠ "." }

/-- Writes a path. A relative path without parts is a dot. -/
def text (path : Path) : Text :=
  if path.anchor = .relative && path.parts.isEmpty then "."
  else path.anchor.text ++ Text.joined "/" path.parts

/-- A path seen from another one: an absolute path is itself. -/
def join (base path : Path) : Path :=
  if path.anchor = .relative then { base with parts := base.parts ++ path.parts } else path

/-- The path that names lead to from another one. -/
def descend (base : Path) (names : List Text) : Path :=
  { base with parts := base.parts ++ names }

/-- The path of a name in a folder. -/
def child (folder : Path) (name : Text) : Path :=
  folder.join (ofText name)

/-- The last part of a path. -/
def name (path : Path) : Text :=
  path.parts.getLast?.getD []

/-- The path of the folder that a path is in, as far as its parts tell. -/
def parent (path : Path) : Path :=
  { path with parts := path.parts.dropLast }

end Path

end FlowDiagram
