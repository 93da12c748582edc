import FlowDiagram.Graph.Edge
import FlowDiagram.Sequence.Rows
import FlowDiagram.Sequence.Unseen
import Std.Data.HashMap
import Std.Data.HashSet

/-!
# Adjacency

The directed graph of a flow: for every source its distinct successors, sources and successors in
the order of their first appearance. The rows keep the order; a table finds the row of a source, so
that a search need not look through all of them.

## Main definitions

* `Adjacency.ofEdges`: the graph of a list of edges.
* `Adjacency.successors`: the successors of a node.
* `Adjacency.reverse`: the graph with every arrow turned around.
* `Adjacency.reachable`: the nodes that can be reached from some nodes.

`Adjacency.rows_ofEdges` and `Adjacency.rows_reverse` say without the loops what the rows are, and
`Adjacency.successors_eq` that the table agrees with them.
-/

namespace FlowDiagram

/-- The table that finds rows; of several rows with one source it finds the first. -/
def rowTable (rows : List (Name × List Name)) : Std.HashMap Name (List Name) :=
  rows.foldr (fun row table => table.insert row.1 row.2) ∅

theorem getElem?_rowTable (rows : List (Name × List Name)) (node : Name) :
    (rowTable rows)[node]? = rows.lookup node := by
  induction rows with
  | nil => simp [rowTable]
  | cons row rows ih =>
    obtain ⟨source, targets⟩ := row
    have hrow : rowTable ((source, targets) :: rows) = (rowTable rows).insert source targets := rfl
    rw [hrow, Std.HashMap.getElem?_insert, List.lookup_cons, ih]
    by_cases hs : node = source
    · simp [hs]
    · have hb : (node == source) = false := by simpa using hs
      have hb' : (source == node) = false := by simpa using Ne.symm hs
      rw [hb, hb', if_neg Bool.false_ne_true]

/-- For every source its successors. -/
structure Adjacency where
  rows : List (Name × List Name)
  table : Std.HashMap Name (List Name) := rowTable rows
  table_eq : table = rowTable rows := by rfl

namespace Adjacency

/-- The rows are all that there is to a graph. -/
theorem eq_of_rows {graph other : Adjacency} (h : graph.rows = other.rows) : graph = other := by
  obtain ⟨rows, table, rfl⟩ := graph
  obtain ⟨rows', table', rfl⟩ := other
  obtain rfl : rows = rows' := h
  rfl

/-- The targets of a source with the target of one more edge, unless it is among them. -/
def addTarget (edge : Edge) (targets : List Name) : List Name :=
  if edge.target ∈ targets then targets else targets ++ [edge.target]

/-- The graph of a list of edges: edge by edge, the row of the source gets the target. -/
def ofEdges (edges : List Edge) : Adjacency :=
  { rows := collectRows Edge.source [] addTarget edges }

/-- The distinct targets of the edges that leave a node. -/
def targetsFrom (edges : List Edge) (source : Name) : List Name :=
  distinct ((edges.filter (·.source = source)).map (·.target))

/-- Edge by edge, a row becomes the list of the distinct targets. -/
theorem foldl_addTarget (before edges : List Edge) :
    edges.foldl (fun targets edge => addTarget edge targets)
        (distinct (before.map (·.target))) =
      distinct ((before ++ edges).map (·.target)) := by
  induction edges generalizing before with
  | nil => rw [List.foldl_nil, List.append_nil]
  | cons edge edges ih =>
    have hstep : addTarget edge (distinct (before.map (·.target))) =
        distinct ((before ++ [edge]).map (·.target)) := by
      rw [List.map_append, List.map_singleton, distinct_concat, addTarget]
      by_cases hmem : edge.target ∈ before.map (·.target)
      · rw [if_pos hmem, if_pos (mem_distinct.mpr hmem)]
      · rw [if_neg hmem, if_neg (mt mem_distinct.mp hmem)]
    rw [List.foldl_cons, hstep, ih, List.append_assoc, List.singleton_append]

/-- There is a row for each distinct source, with the distinct targets of its edges. -/
theorem rows_ofEdges (edges : List Edge) :
    (ofEdges edges).rows =
      (distinct (edges.map (·.source))).map fun source => (source, targetsFrom edges source) := by
  refine (collectRows_eq Edge.source [] addTarget edges).trans ?_
  exact List.map_congr_left fun source _ => congrArg _ (foldl_addTarget [] _)

/-- The nodes with a row. -/
def sources (graph : Adjacency) : List Name :=
  graph.rows.map Prod.fst

/-- The successors of a node; none if it has no row. -/
def successors (graph : Adjacency) (node : Name) : List Name :=
  graph.table[node]?.getD []

/-- All successors of all nodes. -/
def targets (graph : Adjacency) : List Name :=
  graph.rows.flatMap Prod.snd

/-- The arrows of a graph, row by row. -/
def arrows (graph : Adjacency) : List (Name × Name) :=
  graph.rows.flatMap fun row => row.2.map fun target => (row.1, target)

/-- The graph with every arrow turned around: arrow by arrow, the row of the target gets the
source. -/
def reverse (graph : Adjacency) : Adjacency :=
  { rows := collectRows Prod.snd [] (fun arrow sources => sources ++ [arrow.1]) graph.arrows }

/-- There is a row for each distinct target, with the sources of its arrows. -/
theorem rows_reverse (graph : Adjacency) :
    graph.reverse.rows =
      (distinct (graph.arrows.map Prod.snd)).map fun target =>
        (target, (graph.arrows.filter (·.2 = target)).map Prod.fst) := by
  refine (collectRows_eq ..).trans ?_
  exact List.map_congr_left fun target _ =>
    congrArg _ (rowOf_members Prod.snd Prod.fst graph.arrows target)

theorem successors_eq (graph : Adjacency) (node : Name) :
    graph.successors node = (graph.rows.lookup node).getD [] := by
  rw [successors, graph.table_eq, getElem?_rowTable]

theorem lookup_mem {rows : List (Name × List Name)} {node : Name} {next : List Name}
    (h : rows.lookup node = some next) : (node, next) ∈ rows := by
  induction rows with
  | nil => simp at h
  | cons row rows ih =>
    obtain ⟨source, targets⟩ := row
    rw [List.lookup_cons] at h
    by_cases hs : node = source
    · subst hs
      simp only [beq_self_eq_true, Option.some.injEq] at h
      simp [h]
    · have hb : (node == source) = false := by simpa using hs
      rw [hb] at h
      exact List.mem_cons_of_mem _ (ih h)

theorem successors_eq_nil {graph : Adjacency} {node : Name} (h : node ∉ graph.sources) :
    graph.successors node = [] := by
  rw [successors_eq]
  cases hl : graph.rows.lookup node with
  | none => rfl
  | some next => exact absurd (List.mem_map_of_mem (lookup_mem hl)) h

theorem mem_targets {graph : Adjacency} {node next : Name} (h : next ∈ graph.successors node) :
    next ∈ graph.targets := by
  rw [successors_eq] at h
  cases hl : graph.rows.lookup node with
  | none => simp [hl] at h
  | some targets =>
    rw [hl] at h
    exact List.mem_flatMap.mpr ⟨_, lookup_mem hl, h⟩

theorem contains_insert_of_contains (seen : Std.HashSet Name) (node a : Name)
    (h : seen.contains a = true) : (seen.insert node).contains a = true := by
  rw [Std.HashSet.contains_insert, h, Bool.or_true]

/-- Adds to the nodes seen all that can be reached from the pending ones. -/
def reachFrom (graph : Adjacency) (seen : Std.HashSet Name) : List Name → Std.HashSet Name
  | [] => seen
  | node :: pending =>
    if seen.contains node then reachFrom graph seen pending
    else reachFrom graph (seen.insert node) (graph.successors node ++ pending)
termination_by pending => ((unseen graph.sources seen.contains).length, pending.length)
decreasing_by
  · exact Prod.Lex.right _ (Nat.lt_succ_self _)
  · rename_i h
    by_cases hs : node ∈ graph.sources
    · exact Prod.Lex.left _ _
        (length_unseen_lt (contains_insert_of_contains seen node) hs h (by simp))
    · rw [successors_eq_nil hs, List.nil_append]
      rcases Nat.lt_or_eq_of_le
        (length_unseen_le graph.sources (contains_insert_of_contains seen node)) with hlt | heq
      · exact Prod.Lex.left _ _ hlt
      · rw [heq]
        exact Prod.Lex.right _ (Nat.lt_succ_self _)

/-- The nodes that can be reached from the given ones, these included. -/
def reachable (graph : Adjacency) (starts : List Name) : Std.HashSet Name :=
  graph.reachFrom ∅ starts

end Adjacency

end FlowDiagram
