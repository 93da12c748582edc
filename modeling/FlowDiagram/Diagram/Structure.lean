import FlowDiagram.Graph.Cycle
import FlowDiagram.Graph.Iteration

/-!
# The structure of a diagram

A diagram can be drawn when its groups and edges fit its nodes: no group is empty, every member of
a group is a node and belongs to no other group, and every edge joins nodes.

## Main definitions

* `StructureError`: what does not fit, with its wording.
* `checkStructure`: the first thing that does not fit, if any.
-/

namespace FlowDiagram

/-- A group of a diagram, by its kind and its number. -/
inductive GroupName
  | cycle (number : Nat)
  | iteration (number : Nat)
  deriving DecidableEq, Repr

/-- How a group is named in messages. -/
def GroupName.text : GroupName → Text
  | .cycle number => s!"cycle cluster {number}"
  | .iteration number => s!"iteration group {number}"

/-- What does not fit in a diagram. -/
inductive StructureError
  | emptyGroup (group : GroupName)
  | unknownMember (group : GroupName) (member : Name)
  | sharedMember (member : Name) (first second : GroupName)
  | unknownEnd (source target unknown : Name)
  deriving DecidableEq, Repr

/-- The wording of what does not fit. -/
def StructureError.message : StructureError → Text
  | .emptyGroup group => group.text ++ " has no members"
  | .unknownMember group member => group.text ++ " member '" ++ member ++ "' is not a flow node"
  | .sharedMember member first second =>
    "'" ++ member ++ "' is in both " ++ first.text ++ " and " ++ second.text
  | .unknownEnd source target unknown =>
    "edge " ++ source ++ " -> " ++ target ++ " references unknown node '" ++ unknown ++ "'"

/-- The members claimed so far, each with its group. -/
abbrev Claims := List (Name × GroupName)

/-- Claims the members of a group one after the other. -/
def claimMembers (nodes : List Name) (group : GroupName) :
    Claims → List Name → Except StructureError Claims
  | claims, [] => .ok claims
  | claims, member :: members =>
    if nodes.contains member then
      match claims.lookup member with
      | some first => .error (.sharedMember member first group)
      | none => claimMembers nodes group (claims ++ [(member, group)]) members
    else .error (.unknownMember group member)

/-- Claims the members of all groups. -/
def claimGroups (nodes : List Name) :
    Claims → List (GroupName × List Name) → Except StructureError Claims
  | claims, [] => .ok claims
  | claims, (group, members) :: groups =>
    if members.isEmpty then .error (.emptyGroup group)
    else
      match claimMembers nodes group claims members with
      | .ok claims => claimGroups nodes claims groups
      | .error e => .error e

/-- The first end of an edge that is no node. -/
def unknownEnd? (nodes : List Name) (edge : Edge) : Option Name :=
  [edge.source, edge.target].find? (!nodes.contains ·)

/-- Checks that every edge joins nodes. -/
def checkEnds (nodes : List Name) : List Edge → Except StructureError Unit
  | [] => .ok ()
  | edge :: edges =>
    match unknownEnd? nodes edge with
    | some unknown => .error (.unknownEnd edge.source edge.target unknown)
    | none => checkEnds nodes edges

/-- The groups of a diagram with their names: cycle clusters, then iteration groups. -/
def namedGroups (clusters : List Cluster) (groups : List IterationGroup) :
    List (GroupName × List Name) :=
  clusters.zipIdx.map (fun (members, number) => (.cycle number, members)) ++
    groups.zipIdx.map fun (group, number) => (.iteration number, group.members)

/-- Checks that groups and edges fit the nodes. -/
def checkStructure (nodes : List Name) (clusters : List Cluster) (groups : List IterationGroup)
    (edges : List Edge) : Except StructureError Unit := do
  let _ ← claimGroups nodes [] (namedGroups clusters groups)
  checkEnds nodes edges

end FlowDiagram
