import FlowDiagram.Proofs.Graph.BackEdges
import FlowDiagram.Proofs.Graph.Blocks

/-!
# The cycles of consolidated edges

A search for cycles sees of an edge its two ends, and of two edges with the same ends only the
first. Consolidation leaves an edge between any two nodes where there was one, and it keeps the
order in which the pairs of ends appear first. So the graph is the same before and after, row by
row, and the search finds the same back edges and the same clusters in the same order.

The search may then come first or last. If no edge is marked before, consolidation commutes with
marking: edges of one key stay edges of one key, and nothing but the mark tells what is drawn for
them from what would be drawn without it.

## Main definitions

* `Edge.marked`: an edge, marked if its ends are those of a back edge.

`adjacency_consolidate` says that the graph stays, `blocks_eq_map_markBackEdges` that edges may be
marked first or last, and `consolidateGiven_keeps_cycles` is the main result.
-/

namespace FlowDiagram

/-! ## The graph -/

/-- Edges whose keys appear in the same order have ends that appear in the same order. -/
theorem distinct_ends_congr {edges others : List Edge}
    (h : distinct (edges.map Edge.key) = distinct (others.map Edge.key)) :
    distinct (edges.map Edge.ends) = distinct (others.map Edge.ends) := by
  have hends : ∀ edges : List Edge, distinct (edges.map Edge.ends) =
      distinct ((distinct (edges.map Edge.key)).map fun key => (key.source, key.target)) := by
    intro edges
    rw [distinct_map_distinct, List.map_map]
    rfl
  rw [hends, hends, h]

/-- Consolidation does not change the graph. -/
theorem adjacency_consolidate (options : ConsolidationOptions) (backEdges : List (Name × Name))
    (edges : List Edge) :
    Adjacency.ofEdges (consolidate options backEdges edges) = Adjacency.ofEdges edges := by
  have hkeys := distinct_keys_consolidate options backEdges edges
  calc Adjacency.ofEdges (consolidate options backEdges edges)
      = Adjacency.ofEdges (markBackEdges backEdges edges) :=
        Adjacency.ofEdges_congr_distinct (distinct_ends_congr hkeys)
    _ = Adjacency.ofEdges edges :=
        Adjacency.ofEdges_congr (ends_markBackEdges backEdges edges)

theorem cycleAnalysis_consolidate (options : ConsolidationOptions) (backEdges : List (Name × Name))
    (edges : List Edge) (entry : Name) :
    CycleAnalysis.ofEdges entry (consolidate options backEdges edges) =
      CycleAnalysis.ofEdges entry edges := by
  rw [CycleAnalysis.ofEdges, CycleAnalysis.ofEdges, adjacency_consolidate]

/-! ## Marks -/

namespace Edge

/-- An edge, marked if its ends are those of a back edge. -/
def marked (backEdges : List (Name × Name)) (edge : Edge) : Edge :=
  if backEdges.contains edge.ends then { edge with isBackEdge := true } else edge

variable (backEdges : List (Name × Name)) (edge : Edge)

/-- Nothing but the mark changes. -/
theorem marked_eq :
    edge.marked backEdges =
      { edge with isBackEdge := edge.isBackEdge || backEdges.contains edge.ends } := by
  rw [marked]
  split
  · rename_i hback
    rw [hback, Bool.or_true]
  · rename_i hforward
    rw [Bool.not_eq_true] at hforward
    rw [hforward, Bool.or_false]

@[simp] theorem source_marked : (edge.marked backEdges).source = edge.source := by
  rw [marked_eq]

@[simp] theorem target_marked : (edge.marked backEdges).target = edge.target := by
  rw [marked_eq]

@[simp] theorem label_marked : (edge.marked backEdges).label = edge.label := by
  rw [marked_eq]

@[simp] theorem featureFlag_marked : (edge.marked backEdges).featureFlag = edge.featureFlag := by
  rw [marked_eq]

@[simp] theorem isFanOut_marked : (edge.marked backEdges).isFanOut = edge.isFanOut := by
  rw [marked_eq]

@[simp] theorem multiplicity_marked : (edge.marked backEdges).multiplicity = edge.multiplicity := by
  rw [marked_eq]

end Edge

theorem markBackEdges_eq_map (backEdges : List (Name × Name)) (edges : List Edge) :
    markBackEdges backEdges edges = edges.map (Edge.marked backEdges) :=
  rfl

/-- Without back edges nothing is marked. -/
@[simp] theorem markBackEdges_nil (edges : List Edge) : markBackEdges [] edges = edges :=
  markBackEdges_eq_self fun _ _ hback => absurd hback List.not_mem_nil

/-- The key of an edge, marked if its ends are those of a back edge. -/
def EdgeKey.marked (backEdges : List (Name × Name)) (key : EdgeKey) : EdgeKey :=
  { key with isBackEdge := key.isBackEdge || backEdges.contains (key.source, key.target) }

theorem key_marked (backEdges : List (Name × Name)) (edge : Edge) :
    (edge.marked backEdges).key = edge.key.marked backEdges := by
  rw [Edge.marked_eq]
  rfl

/-- Keys without a mark are told apart by their ends. -/
theorem EdgeKey.marked_inj {backEdges : List (Name × Name)} {a b : EdgeKey}
    (ha : a.isBackEdge = false) (hb : b.isBackEdge = false)
    (h : a.marked backEdges = b.marked backEdges) : a = b := by
  obtain ⟨hsource, htarget, -⟩ := EdgeKey.mk.inj h
  obtain ⟨source, target, isBackEdge⟩ := a
  subst ha hsource htarget
  rw [← hb]

/-! ## Marking first or last -/

namespace Consolidation

variable (options : ConsolidationOptions) (backEdges : List (Name × Name))

theorem summaryLabel_markBackEdges (count : Nat) (edges : List Edge) :
    summaryLabel options count (markBackEdges backEdges edges) =
      summaryLabel options count edges := by
  have hexample : example? (markBackEdges backEdges edges) = example? edges := by
    simp only [example?, markBackEdges_eq_map, List.find?_map, Option.map_map, Function.comp_def,
      Edge.label_marked]
  rw [summaryLabel, summaryLabel, hexample]

/-- The edge that stands for marked edges is the marked edge that stands for them. -/
theorem merge_markBackEdges (first : Edge) (others : List Edge) :
    merge options (first.marked backEdges) (markBackEdges backEdges others) =
      (merge options first others).marked backEdges := by
  have htotal : total (first.marked backEdges :: markBackEdges backEdges others) =
      total (first :: others) :=
    total_map (Edge.multiplicity_marked backEdges) (first :: others)
  have hlabel : summaryLabel options (total (first :: others))
      (first.marked backEdges :: markBackEdges backEdges others) =
        summaryLabel options (total (first :: others)) (first :: others) :=
    summaryLabel_markBackEdges options backEdges _ (first :: others)
  have hflag : sharedFlag (first.marked backEdges) (markBackEdges backEdges others) =
      sharedFlag first others := by
    simp only [sharedFlag, markBackEdges_eq_map, List.all_map, Function.comp_def,
      Edge.featureFlag_marked]
  have hfanOut : (first.marked backEdges :: markBackEdges backEdges others).any (·.isFanOut) =
      (first :: others).any (·.isFanOut) := by
    simp [markBackEdges_eq_map, Function.comp_def]
  have hback : (first.marked backEdges).isBackEdge =
      (first.isBackEdge || backEdges.contains first.ends) := by
    rw [Edge.marked_eq]
  rw [Edge.marked_eq backEdges (merge options first others)]
  simp only [merge, Edge.mk.injEq, Edge.source_marked, Edge.target_marked, htotal, hlabel, hflag,
    hfanOut, hback, true_and, and_true]
  rfl

/-- What is drawn for edges may be marked before or after they are put together. -/
theorem block_markBackEdges (edges : List Edge) :
    block options (markBackEdges backEdges edges) =
      markBackEdges backEdges (block options edges) := by
  match edges with
  | [] => rfl
  | [edge] => rfl
  | first :: second :: others =>
    have htotal : total (markBackEdges backEdges (first :: second :: others)) =
        total (first :: second :: others) :=
      total_map (Edge.multiplicity_marked backEdges) _
    simp only [markBackEdges_eq_map, List.map_cons] at htotal ⊢
    simp only [block, htotal]
    split
    · rfl
    · exact congrArg List.singleton (merge_markBackEdges options backEdges first (second :: others))

theorem counted_markBackEdges (edges : List Edge) :
    counted options.showConditions (markBackEdges backEdges edges) =
      markBackEdges backEdges (counted options.showConditions edges) :=
  counted_map (f := Edge.marked backEdges) (fun edge => by rw [Edge.label_marked]) _ _

theorem overlong_markBackEdges (edges : List Edge) :
    Overlong options (markBackEdges backEdges edges) ↔ Overlong options edges := by
  have htotal : total (markBackEdges backEdges edges) = total edges :=
    total_map (Edge.multiplicity_marked backEdges) edges
  rw [Overlong, Overlong, htotal, markBackEdges, List.length_map]

variable {edges : List Edge} (hplain : ∀ edge ∈ edges, edge.isBackEdge = false)

include hplain

/-- The keys of marked edges are the marked keys, in the same order. -/
theorem distinct_keys_markBackEdges :
    distinct ((markBackEdges backEdges edges).map Edge.key) =
      (distinct (edges.map Edge.key)).map (EdgeKey.marked backEdges) := by
  have hkeys : (markBackEdges backEdges edges).map Edge.key =
      (edges.map Edge.key).map (EdgeKey.marked backEdges) := by
    rw [markBackEdges_eq_map, List.map_map, List.map_map]
    exact List.map_congr_left fun edge _ => key_marked backEdges edge
  have hunmarked : ∀ key ∈ distinct (edges.map Edge.key), key.isBackEdge = false := by
    intro key hkey
    obtain ⟨edge, hedge, rfl⟩ := List.mem_map.mp (mem_distinct.mp hkey)
    exact hplain edge hedge
  have hnodup : ((distinct (edges.map Edge.key)).map (EdgeKey.marked backEdges)).Nodup :=
    (nodup_distinct _).map_on fun a ha b hb heq =>
      EdgeKey.marked_inj (hunmarked a ha) (hunmarked b hb) heq
  rw [hkeys, ← distinct_map_distinct, distinct_eq_self hnodup]

/-- The marked edges of a marked key are the edges of the key, marked. -/
theorem group_markBackEdges {key : EdgeKey} (hkey : key.isBackEdge = false) :
    group (markBackEdges backEdges edges) (key.marked backEdges) =
      markBackEdges backEdges (group edges key) := by
  rw [group, markBackEdges_eq_map, List.filter_map, markBackEdges_eq_map, group]
  congr 1
  refine List.filter_congr fun edge hedge => decide_eq_decide.mpr ?_
  rw [key_marked]
  exact ⟨EdgeKey.marked_inj (hplain edge hedge) hkey, congrArg _⟩

/-- The edges that are put together are the same, whether they are marked first or last. -/
theorem blocks_eq_map_markBackEdges :
    blocks options backEdges edges = (blocks options [] edges).map (markBackEdges backEdges) := by
  rw [blocks_eq, blocks_eq, distinct_keys_markBackEdges backEdges hplain, markBackEdges_nil,
    List.map_map, List.map_map]
  refine List.map_congr_left fun key hkey => ?_
  obtain ⟨edge, hedge, rfl⟩ := List.mem_map.mp (mem_distinct.mp hkey)
  simp only [Function.comp_apply]
  rw [group_markBackEdges backEdges hplain (hplain edge hedge), counted_markBackEdges]

/-- Edges may be consolidated before they are marked. -/
theorem consolidate_eq_markBackEdges :
    consolidate options backEdges edges =
      markBackEdges backEdges (consolidate options [] edges) := by
  have hblock : ∀ counts : List Edge, block options (markBackEdges backEdges counts) =
      (block options counts).map (Edge.marked backEdges) :=
    block_markBackEdges options backEdges
  rw [consolidate, blocks_eq_map_markBackEdges options backEdges hplain, List.flatMap_map,
    consolidate, markBackEdges_eq_map, List.map_flatMap]
  simp only [hblock]

/-- The same for edges whose numbers may be too long. -/
theorem consolidateGiven_eq_map_markBackEdges :
    consolidateGiven options backEdges edges =
      (consolidateGiven options [] edges).map (markBackEdges backEdges) := by
  have hover : (∃ counts ∈ blocks options backEdges edges, Overlong options counts) ↔
      ∃ counts ∈ blocks options [] edges, Overlong options counts := by
    simp only [blocks_eq_map_markBackEdges options backEdges hplain, List.mem_map,
      exists_exists_and_eq_and, overlong_markBackEdges]
  rw [consolidateGiven_eq_ite, consolidateGiven_eq_ite,
    consolidate_eq_markBackEdges options backEdges hplain]
  simp only [hover]
  split <;> rfl

end Consolidation

open Consolidation

/-- A number is too long for some block exactly if it is too long for the edges of some key. -/
theorem exists_overlong_blocks_iff (options : ConsolidationOptions)
    (backEdges : List (Name × Name)) (edges : List Edge) :
    (∃ counts ∈ blocks options backEdges edges, Overlong options counts) ↔
      ∃ key, Overlong options
        (counted options.showConditions (group (markBackEdges backEdges edges) key)) := by
  simp only [blocks_eq, List.mem_map, exists_exists_and_eq_and]
  constructor
  · rintro ⟨key, -, hover⟩
    exact ⟨key, hover⟩
  · rintro ⟨key, hover⟩
    -- Several edges have the key, so it is the key of one of them.
    have hne : counted options.showConditions (group (markBackEdges backEdges edges) key) ≠ [] :=
      List.ne_nil_of_length_pos (Nat.zero_lt_of_lt hover.1)
    obtain ⟨edge, hedge⟩ := List.exists_mem_of_ne_nil _ hne
    obtain ⟨hmem, hkey⟩ := List.mem_filter.mp (counted_subset _ _ hedge)
    exact ⟨key, mem_distinct.mpr (List.mem_map.mpr ⟨edge, hmem, of_decide_eq_true hkey⟩), hover⟩

/-- Consolidation changes no cycle: unless a number cannot be written, it draws edges with the same
graph, row by row, and a search from any entry finds in them the same back edges and the same
clusters. If no edge is marked before, the search may come first, to tell consolidation the back
edges, or last, to mark them among the drawn edges. -/
theorem consolidateGiven_keeps_cycles (options : ConsolidationOptions)
    (backEdges : List (Name × Name)) (edges : List Edge) :
    ((∃ key, Overlong options
          (counted options.showConditions (group (markBackEdges backEdges edges) key))) ∧
        consolidateGiven options backEdges edges = .error .overlongCount ∨
      ∃ drawn, consolidateGiven options backEdges edges = .ok drawn ∧
        Adjacency.ofEdges drawn = Adjacency.ofEdges edges ∧
        ∀ entry, CycleAnalysis.ofEdges entry drawn = CycleAnalysis.ofEdges entry edges) ∧
    ((∀ edge ∈ edges, edge.isBackEdge = false) → ∀ entry,
      consolidateGiven options (CycleAnalysis.ofEdges entry edges).backEdges edges =
        (consolidateGiven options [] edges).map fun drawn =>
          markBackEdges (CycleAnalysis.ofEdges entry drawn).backEdges drawn) := by
  constructor
  · rw [← exists_overlong_blocks_iff, consolidateGiven_eq_ite]
    by_cases hover : ∃ counts ∈ blocks options backEdges edges, Overlong options counts
    · exact Or.inl ⟨hover, if_pos hover⟩
    · exact Or.inr ⟨_, if_neg hover, adjacency_consolidate options backEdges edges,
        cycleAnalysis_consolidate options backEdges edges⟩
  · intro hplain entry
    rw [consolidateGiven_eq_map_markBackEdges options _ hplain, consolidateGiven_eq_ite]
    split
    · simp only [Except.map]
    · simp only [Except.map, cycleAnalysis_consolidate]

/-- Two activities that lead to each other, one of them in two ways. -/
def thereAndBack : List Edge :=
  [{ source := "A", target := "B", label := "x", multiplicity_pos := Nat.one_pos },
    { source := "B", target := "A", multiplicity_pos := Nat.one_pos },
    { source := "A", target := "B", label := "y", multiplicity_pos := Nat.one_pos }]

/-- The way back may be found before the two ways there are put together, or after. -/
theorem consolidateGiven_thereAndBack :
    (∀ edge ∈ thereAndBack, edge.isBackEdge = false) ∧
      consolidateGiven {} (CycleAnalysis.ofEdges "A" thereAndBack).backEdges thereAndBack =
        (consolidateGiven {} [] thereAndBack).map fun drawn =>
          markBackEdges (CycleAnalysis.ofEdges "A" drawn).backEdges drawn :=
  ⟨by decide, (consolidateGiven_keeps_cycles {} [] thereAndBack).2 (by decide) "A"⟩

/-- Where a number cannot be written, there are no drawn edges, let alone with the same graph. -/
theorem not_exists_drawn_pairOf {count : Nat} (hcount : 0 < count)
    (h : Nat.pow 10 Text.maxDigits ≤ count + 1) :
    ¬ ∃ drawn, consolidateGiven {} [] (pairOf count hcount) = .ok drawn ∧
        Adjacency.ofEdges drawn = Adjacency.ofEdges (pairOf count hcount) := by
  rintro ⟨drawn, hdrawn, -⟩
  rw [consolidateGiven_pairOf hcount h] at hdrawn
  exact absurd hdrawn (by simp)

/-- So the graph of two edges is not kept if their number is the smallest that is too long. -/
theorem not_exists_drawn_overlong :
    ¬ ∃ drawn, consolidateGiven {} []
          (pairOf (Nat.pow 10 Text.maxDigits - 1) (pow_sub_one_pos (by decide))) = .ok drawn ∧
        Adjacency.ofEdges drawn =
          Adjacency.ofEdges
            (pairOf (Nat.pow 10 Text.maxDigits - 1) (pow_sub_one_pos (by decide))) :=
  not_exists_drawn_pairOf _ (by omega)

end FlowDiagram
