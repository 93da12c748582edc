import FlowDiagram.Graph.Adjacency
import FlowDiagram.Graph.Cycle

/-!
# Iteration groups

A fan-out starts chains of activities. A chain follows single successors from the target of the
fan-out on; it ends before the end of the flow, before a cycle and before an earlier chain, so
that no activity belongs to two groups. Chains of a single activity are not worth a group.

## Main definitions

* `IterationGroup`: a chain and the activity that started it.
* `IterationGroup.ofEdges`: the groups of a flow.
-/

namespace FlowDiagram

/-- A chain of activities that a fan-out starts. -/
structure IterationGroup where
  trigger : Name
  members : List Name
  deriving DecidableEq, Repr

namespace IterationGroup

/-- Follows single successors from the last activity of a chain on, as long as they are free. -/
def extend (graph : Adjacency) (taken chain : List Name) (current : Name) : List Name :=
  match _hnext : graph.successors current with
  | [next] =>
    if next = endNode ∨ next ∈ taken ∨ next ∈ chain then chain
    else extend graph taken (chain ++ [next]) next
  | _ => chain
termination_by (unseen graph.targets chain.contains).length
decreasing_by
  rename_i hfree
  refine length_unseen_append_lt (@Adjacency.mem_targets graph current next ?_) ?_
  · rw [_hnext]
    exact List.mem_singleton.mpr rfl
  · exact fun hc => hfree (Or.inr (Or.inr hc))

/-- Adds the group that an edge starts, if it is a fan-out to a free activity and its chain is
long enough. -/
def addFrom (graph : Adjacency) (state : List Name × List IterationGroup) (edge : Edge) :
    List Name × List IterationGroup :=
  let (taken, groups) := state
  if !edge.isFanOut || taken.contains edge.target then state
  else
    let chain := extend graph taken [edge.target] edge.target
    if 1 < chain.length then
      (taken ++ chain, groups ++ [{ trigger := edge.source, members := chain }])
    else state

/-- The iteration groups of a flow, disjoint from its cycle clusters and from one another. -/
def ofEdges (edges : List Edge) (clusters : List Cluster) : List IterationGroup :=
  (edges.foldl (addFrom (Adjacency.ofEdges edges)) (clusters.flatten, [])).2

end IterationGroup

end FlowDiagram
