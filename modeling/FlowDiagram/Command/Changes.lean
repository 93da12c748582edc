import FlowDiagram.Files.Disk

/-!
# Changes on the disk

What has to be done to a disk to make it look like another one.

## Main definitions

* `Change`: one step.
* `changes`: the steps from one disk to another.
-/

namespace FlowDiagram

/-- A step that changes a disk. -/
inductive Change
  | makeFolder (place : Place)
  | writeFile (place : Place) (bytes : List UInt8)
  | removeFile (place : Place)
  deriving DecidableEq, Repr

/-- The step that puts a node at a place, unless it is there. -/
def putChange (before : Disk) (place : Place) (node : DiskNode) : Option Change :=
  if before.node? place = some node then none
  else
    match node with
    | .folder => some (.makeFolder place)
    | .file bytes => some (.writeFile place bytes)

/-- The steps from one disk to another: removals first, then folders and files in the order in which
they came to be. -/
def changes (before after : Disk) : List Change :=
  let removed := before.nodes.filter fun node => (after.node? node.1).isNone
  removed.map (fun node => .removeFile node.1) ++
    after.nodes.reverse.filterMap fun (place, node) => putChange before place node

end FlowDiagram
