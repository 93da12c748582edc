import FlowDiagram.Graph.DepthFirst
import FlowDiagram.Graph.DisjointSets

/-!
# Cycles

The cycles of a flow, gathered into clusters of activities that lie on cycles through one another.
Each back edge seeds a group with the cycle it closes; groups that share a node are joined, and a
group grows by every node that it reaches and that reaches it. Cycles that only forward edges
connect stay apart.

## Main definitions

* `CycleAnalysis`: the back edges and clusters of a flow.
* `CycleAnalysis.ofEdges`: the analysis of a list of edges.
-/

namespace FlowDiagram

/-- Activities that lie on cycles through one another. -/
abbrev Cluster := List Name

/-- The back edges and cycle clusters of a flow. -/
structure CycleAnalysis where
  backEdges : List (Name × Name)
  clusters : List Cluster
  deriving DecidableEq, Repr

namespace CycleAnalysis

/-- Whether the flow has a cycle. -/
def hasCycles (analysis : CycleAnalysis) : Bool :=
  !analysis.backEdges.isEmpty

/-- The position of the cluster that holds a node. -/
def clusterOf? (analysis : CycleAnalysis) (node : Name) : Option Nat :=
  analysis.clusters.findIdx? (·.contains node)

/-- The groups that the cycles of a search seed: cycles with a common node are joined. -/
def seeds (cycles : List (List Name)) : List (List Name) :=
  (cycles.foldl DisjointSets.unionAll .empty).groups

/-- The discovered nodes that a group reaches and that reach it, in order of discovery; `back` is
the graph with every arrow turned around. -/
def close (graph back : Adjacency) (discovered : List Name) (group : List Name) : List Name :=
  let after := graph.reachable group
  let before := back.reachable group
  discovered.filter fun node => after.contains node && before.contains node

/-- Joins the closures that overlap. -/
def joined (closures : List (List Name)) : List (List Name) :=
  (closures.foldl DisjointSets.unionAll .empty).groups

/-- The members of a group in order of discovery. -/
def ordered (discovered group : List Name) : Cluster :=
  discovered.filter group.contains

/-- Sorts clusters by the discovery of their first members. -/
def sortClusters (discovered : List Name) (clusters : List Cluster) : List Cluster :=
  let rank (cluster : Cluster) := (cluster.head?.map discovered.idxOf).getD 0
  clusters.mergeSort fun a b => decide (rank a ≤ rank b)

/-- The cycles of the flow that some edges make up, searched from an entry on. -/
def ofEdges (entry : Name) (edges : List Edge) : CycleAnalysis :=
  let graph := Adjacency.ofEdges edges
  let search := Search.run entry graph
  let closures := (seeds search.cycles).map (close graph graph.reverse search.discovered)
  let clusters := (joined closures).map (ordered search.discovered)
  { backEdges := search.backEdges
    clusters := sortClusters search.discovered clusters }

end CycleAnalysis

end FlowDiagram
