import FlowDiagram.Graph.Adjacency
import Mathlib.Logic.Relation

/-!
# Arrows

The directed graph that a list of edges stands for, as a relation. The adjacency of the edges lists
the arrows out of every node, its reverse lists the arrows into every node, and the search along
either finds what a sequence of arrows leads to.

## Main definitions

* `Arrow`: some edge leads from one node to another.
* `Adjacency.Leads`: the same for the successors in an adjacency.

`Adjacency.contains_reachable` says what a search finds.
-/

namespace FlowDiagram

open Relation

/-- Some edge leads from a node to another. -/
def Arrow (edges : List Edge) (source target : Name) : Prop :=
  (source, target) ∈ edges.map Edge.ends

theorem arrow_iff {edges : List Edge} {source target : Name} :
    Arrow edges source target ↔ ∃ edge ∈ edges, edge.source = source ∧ edge.target = target := by
  simp [Arrow, Edge.ends]

namespace Adjacency

/-- An arrow of an adjacency. -/
def Leads (graph : Adjacency) (node next : Name) : Prop :=
  next ∈ graph.successors node

/-! ## Rows -/

/-- Rows that are made for distinct keys are found by their keys. -/
theorem lookup_map_key (keys : List Name) (row : Name → List Name) (key : Name) :
    (keys.map fun k => (k, row k)).lookup key = if key ∈ keys then some (row key) else none := by
  induction keys with
  | nil => simp
  | cons k keys ih =>
    rw [List.map_cons, List.lookup_cons, ih]
    by_cases hk : key = k
    · simp [hk]
    · have hb : (key == k) = false := by simpa using hk
      simp [hk, hb]

theorem mem_targetsFrom {edges : List Edge} {source target : Name} :
    target ∈ targetsFrom edges source ↔ Arrow edges source target := by
  simp [targetsFrom, arrow_iff, and_assoc]

theorem successors_ofEdges (edges : List Edge) (node : Name) :
    (ofEdges edges).successors node = targetsFrom edges node := by
  rw [successors_eq, rows_ofEdges, lookup_map_key]
  by_cases hn : node ∈ distinct (edges.map (·.source))
  · rw [if_pos hn, Option.getD_some]
  · rw [if_neg hn, Option.getD_none]
    refine (List.eq_nil_iff_forall_not_mem.mpr fun target ht => hn ?_).symm
    obtain ⟨edge, he, hs, -⟩ := arrow_iff.mp (mem_targetsFrom.mp ht)
    exact mem_distinct.mpr (List.mem_map.mpr ⟨edge, he, hs⟩)

theorem leads_ofEdges {edges : List Edge} {node next : Name} :
    (ofEdges edges).Leads node next ↔ Arrow edges node next := by
  rw [Leads, successors_ofEdges, mem_targetsFrom]

theorem nodup_successors_ofEdges (edges : List Edge) (node : Name) :
    ((ofEdges edges).successors node).Nodup := by
  rw [successors_ofEdges]
  exact nodup_distinct _

theorem mem_sources_ofEdges {edges : List Edge} {node : Name} :
    node ∈ (ofEdges edges).sources ↔ ∃ next, Arrow edges node next := by
  simp only [sources, rows_ofEdges, List.map_map, List.mem_map, mem_distinct, Function.comp_apply,
    arrow_iff]
  constructor
  · rintro ⟨source, ⟨edge, he, rfl⟩, rfl⟩
    exact ⟨edge.target, edge, he, rfl, rfl⟩
  · rintro ⟨next, edge, he, rfl, -⟩
    exact ⟨edge.source, ⟨edge, he, rfl⟩, rfl⟩

theorem mem_targets_ofEdges {edges : List Edge} {node : Name} :
    node ∈ (ofEdges edges).targets ↔ ∃ source, Arrow edges source node := by
  simp only [targets, rows_ofEdges, List.mem_flatMap, List.mem_map, mem_distinct]
  constructor
  · rintro ⟨row, ⟨source, -, rfl⟩, hn⟩
    exact ⟨source, mem_targetsFrom.mp hn⟩
  · rintro ⟨source, hs⟩
    obtain ⟨edge, he, rfl, -⟩ := arrow_iff.mp hs
    exact ⟨_, ⟨edge.source, ⟨edge, he, rfl⟩, rfl⟩, mem_targetsFrom.mpr hs⟩

theorem mem_arrows_ofEdges {edges : List Edge} {source target : Name} :
    (source, target) ∈ (ofEdges edges).arrows ↔ Arrow edges source target := by
  simp only [arrows, rows_ofEdges, List.mem_flatMap, List.mem_map, mem_distinct, Prod.mk.injEq]
  constructor
  · rintro ⟨_, ⟨_, -, rfl⟩, _, htarget, rfl, rfl⟩
    exact mem_targetsFrom.mp htarget
  · intro h
    obtain ⟨edge, hedge, rfl, -⟩ := arrow_iff.mp h
    exact ⟨_, ⟨edge.source, ⟨edge, hedge, rfl⟩, rfl⟩, target, mem_targetsFrom.mpr h, rfl, rfl⟩

/-- The reverse of a graph has every arrow turned around. -/
theorem leads_reverse_ofEdges {edges : List Edge} {node next : Name} :
    (ofEdges edges).reverse.Leads node next ↔ Arrow edges next node := by
  have hrow : (ofEdges edges).reverse.successors node =
      ((ofEdges edges).arrows.filter (·.2 = node)).map Prod.fst := by
    rw [successors_eq, rows_reverse, lookup_map_key]
    split
    · rfl
    · rename_i hnone
      have hempty : (ofEdges edges).arrows.filter (·.2 = node) = [] :=
        List.filter_eq_nil_iff.mpr fun arrow harrow htarget =>
          hnone (mem_distinct.mpr (List.mem_map.mpr ⟨arrow, harrow, of_decide_eq_true htarget⟩))
      rw [hempty]
      rfl
  rw [Leads, hrow, ← mem_arrows_ofEdges]
  simp

/-- The graph of edges depends on their ends only, and on the order in which they appear first. -/
theorem ofEdges_congr_distinct {edges others : List Edge}
    (h : distinct (edges.map Edge.ends) = distinct (others.map Edge.ends)) :
    ofEdges edges = ofEdges others := by
  have hsources : ∀ edges : List Edge, distinct (edges.map (·.source)) =
      distinct ((distinct (edges.map Edge.ends)).map Prod.fst) := by
    intro edges
    rw [distinct_map_distinct, List.map_map]
    rfl
  have htargets : ∀ (edges : List Edge) (source : Name), targetsFrom edges source =
      distinct (((distinct (edges.map Edge.ends)).filter (·.1 = source)).map Prod.snd) := by
    intro edges source
    rw [← distinct_filter, distinct_map_distinct, List.filter_map, List.map_map]
    rfl
  refine eq_of_rows ?_
  simp only [rows_ofEdges, hsources, htargets, h]

theorem ofEdges_congr {edges others : List Edge}
    (h : edges.map Edge.ends = others.map Edge.ends) : ofEdges edges = ofEdges others :=
  ofEdges_congr_distinct (congrArg distinct h)

/-! ## Searching along arrows -/

/-- Every arrow out of a node that was seen leads to one that was seen or is pending. -/
def Closed (graph : Adjacency) (seen : Std.HashSet Name) (pending : List Name) : Prop :=
  ∀ node, seen.contains node = true →
    ∀ next, graph.Leads node next → seen.contains next = true ∨ next ∈ pending

/-- What a node that was seen leads to was seen too, or a pending node leads to it. -/
theorem Closed.seen_or_pending {graph : Adjacency} {seen : Std.HashSet Name} {pending : List Name}
    (hclosed : graph.Closed seen pending) {start node : Name} (hstart : seen.contains start = true)
    (hpath : ReflTransGen graph.Leads start node) :
    seen.contains node = true ∨ ∃ s ∈ pending, ReflTransGen graph.Leads s node := by
  induction hpath with
  | refl => exact Or.inl hstart
  | @tail middle node _ harrow ih =>
    rcases ih with hseen | ⟨s, hs, hpath⟩
    · exact (hclosed middle hseen node harrow).imp_right fun hp => ⟨node, hp, .refl⟩
    · exact Or.inr ⟨s, hs, hpath.tail harrow⟩

theorem contains_insert_iff {seen : Std.HashSet Name} {node a : Name} :
    (seen.insert node).contains a = true ↔ seen.contains a = true ∨ a = node := by
  rw [Std.HashSet.contains_insert, Bool.or_eq_true, beq_iff_eq, or_comm]
  exact or_congr_right eq_comm

/-- A pending node that was seen can be left out. -/
theorem Closed.skip {graph : Adjacency} {seen : Std.HashSet Name} {first : Name}
    {pending : List Name} (h : graph.Closed seen (first :: pending))
    (hfirst : seen.contains first = true) : graph.Closed seen pending := by
  intro a ha next hnext
  rcases h a ha next hnext with hs | hp
  · exact Or.inl hs
  · rcases List.mem_cons.mp hp with rfl | hp
    · exact Or.inl hfirst
    · exact Or.inr hp

/-- A pending node is seen as soon as its successors are pending. -/
theorem Closed.insert {graph : Adjacency} {seen : Std.HashSet Name} {first : Name}
    {pending : List Name} (h : graph.Closed seen (first :: pending)) :
    graph.Closed (seen.insert first) (graph.successors first ++ pending) := by
  intro a ha next hnext
  rw [contains_insert_iff, List.mem_append]
  rcases contains_insert_iff.mp ha with hs | rfl
  · rcases h a hs next hnext with hs' | hp
    · exact Or.inl (Or.inl hs')
    · rcases List.mem_cons.mp hp with rfl | hp
      · exact Or.inl (Or.inr rfl)
      · exact Or.inr (Or.inr hp)
  · exact Or.inr (Or.inl hnext)

/-- A search sees what it has seen before and all that pending nodes lead to. -/
theorem contains_reachFrom {graph : Adjacency} {seen : Std.HashSet Name} {pending : List Name}
    (hclosed : graph.Closed seen pending) (node : Name) :
    (graph.reachFrom seen pending).contains node = true ↔
      seen.contains node = true ∨ ∃ s ∈ pending, ReflTransGen graph.Leads s node := by
  fun_induction reachFrom graph seen pending with
  | case1 seen => simp
  | case2 seen first pending hfirst ih =>
    have hclosed' := hclosed.skip hfirst
    rw [ih hclosed']
    constructor
    · exact Or.imp_right fun ⟨s, hs, hpath⟩ => ⟨s, List.mem_cons_of_mem first hs, hpath⟩
    · rintro (hseen | ⟨s, hs, hpath⟩)
      · exact Or.inl hseen
      · rcases List.mem_cons.mp hs with rfl | hs
        · exact hclosed'.seen_or_pending hfirst hpath
        · exact Or.inr ⟨s, hs, hpath⟩
  | case3 seen first pending hfirst ih =>
    rw [ih hclosed.insert, contains_insert_iff]
    constructor
    · rintro ((hseen | rfl) | ⟨s, hs, hpath⟩)
      · exact Or.inl hseen
      · exact Or.inr ⟨node, List.mem_cons_self, .refl⟩
      · rcases List.mem_append.mp hs with hs | hs
        · exact Or.inr ⟨first, List.mem_cons_self, .head hs hpath⟩
        · exact Or.inr ⟨s, List.mem_cons_of_mem first hs, hpath⟩
    · rintro (hseen | ⟨s, hs, hpath⟩)
      · exact Or.inl (Or.inl hseen)
      · rcases List.mem_cons.mp hs with rfl | hs
        · rcases ReflTransGen.cases_head hpath with rfl | ⟨next, hnext, hpath⟩
          · exact Or.inl (Or.inr rfl)
          · exact Or.inr ⟨next, List.mem_append_left _ hnext, hpath⟩
        · exact Or.inr ⟨s, List.mem_append_right _ hs, hpath⟩

/-- A search sees exactly the nodes that its starts lead to. -/
theorem contains_reachable (graph : Adjacency) (starts : List Name) (node : Name) :
    (graph.reachable starts).contains node = true ↔
      ∃ s ∈ starts, ReflTransGen graph.Leads s node := by
  have hclosed : graph.Closed ∅ starts := by
    intro a ha
    simp at ha
  rw [reachable, contains_reachFrom hclosed]
  simp

end Adjacency

end FlowDiagram
