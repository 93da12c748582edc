import FlowDiagram.Graph.Adjacency

/-!
# Depth-first search

A depth-first search over a flow's graph. An edge that leads back to a node on the current path
closes a cycle: it is a back edge, and the part of the path from that node on is the cycle it
closes. A node is undiscovered, then on the path, then finished; the undiscovered ones are kept in
a list that only shrinks.

## Main definitions

* `Search`: what a search has found so far.
* `Search.explore`: one search from a path.
* `Search.run`: the search of a whole graph, from the entry and then from every other source.
-/

namespace FlowDiagram

/-- A node on the current path and its successors that have not been looked at. -/
structure Frame where
  node : Name
  pending : List Name

/-- The state of a search: the nodes not yet discovered, the discovered ones in order, the back
edges, and for each of them the cycle it closes. -/
structure Search where
  undiscovered : List Name
  discovered : List Name
  backEdges : List (Name × Name)
  cycles : List (List Name)

namespace Search

/-- Discovers a node. -/
def discover (search : Search) (node : Name) : Search :=
  { search with
    undiscovered := search.undiscovered.erase node
    discovered := search.discovered ++ [node] }

/-- The nodes of a path, from its start to the current node. -/
def pathOf (frames : List Frame) : List Name :=
  (frames.map Frame.node).reverse

/-- Records the edge from the last node of a path back to an earlier one. -/
def closeCycle (search : Search) (path : List Name) (source target : Name) : Search :=
  { search with
    backEdges := search.backEdges ++ [(source, target)]
    cycles := search.cycles ++ [path.dropWhile (· ≠ target)] }

/-- The number of steps a path can still take without discovering a node. -/
def workLeft : List Frame → Nat
  | [] => 0
  | frame :: frames => frame.pending.length + 1 + workLeft frames

/-- Searches on from a path, whose last node comes first. -/
def explore (graph : Adjacency) (search : Search) : List Frame → Search
  | [] => search
  | ⟨_, []⟩ :: frames => explore graph search frames
  | ⟨node, next :: pending⟩ :: frames =>
    if next ∈ search.undiscovered then
      explore graph (search.discover next)
        (⟨next, graph.successors next⟩ :: ⟨node, pending⟩ :: frames)
    else if next ∈ pathOf (⟨node, pending⟩ :: frames) then
      explore graph (search.closeCycle (pathOf (⟨node, pending⟩ :: frames)) node next)
        (⟨node, pending⟩ :: frames)
    else explore graph search (⟨node, pending⟩ :: frames)
termination_by frames => (search.undiscovered.length, workLeft frames)
decreasing_by
  · exact Prod.Lex.right _ (by simp [workLeft])
  · rename_i h
    refine Prod.Lex.left _ _ ?_
    simp only [discover]
    rw [List.length_erase_of_mem h]
    exact Nat.sub_one_lt (Nat.ne_of_gt (List.length_pos_of_mem h))
  · exact Prod.Lex.right _ (by simp [workLeft])
  · exact Prod.Lex.right _ (by simp [workLeft])

/-- Searches from a root, unless it has been discovered. -/
def exploreRoot (graph : Adjacency) (search : Search) (root : Name) : Search :=
  if root ∈ search.undiscovered then
    explore graph (search.discover root) [⟨root, graph.successors root⟩]
  else search

/-- The places a search starts from: the entry, then every source. -/
def roots (entry : Name) (graph : Adjacency) : List Name :=
  entry :: graph.sources

/-- The search before its first step. -/
def start (entry : Name) (graph : Adjacency) : Search :=
  { undiscovered := distinct (entry :: (graph.sources ++ graph.targets))
    discovered := []
    backEdges := []
    cycles := [] }

/-- The search of a whole graph. -/
def run (entry : Name) (graph : Adjacency) : Search :=
  (roots entry graph).foldl (exploreRoot graph) (start entry graph)

end Search

end FlowDiagram
