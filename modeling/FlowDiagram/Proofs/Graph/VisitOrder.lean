import FlowDiagram.Proofs.Graph.Components
import FlowDiagram.Proofs.Graph.Walk

/-!
# One order of visits

A walk over facts and the search for cycles in the edges that the walk met go through the activities
in the same order. The search knows the edges only, looks at every target once, meets the end of the
flow wherever an edge leads there, and starts again from every source; none of this changes the
order of the activities.

The path of a search is discovered from its start to the current node. So a back edge, which leads
to a node of the path, never leads to a node that is discovered later.

## Main definitions

* `Search.InOrder`: the path of a search and the back edges agree with the order of discovery.
* `activitiesFrom`: the activities that some edges lead to from a node.

`Walk.filter_discovered_along` says that the orders are the same, and `Walk.visitOrder_along` what
follows for back edges and clusters.
-/

namespace FlowDiagram

open Relation

/-! ## Back edges in the order of discovery -/

namespace Search

variable {graph : Adjacency} {search : Search} {frames : List Frame} {node next : Name}
  {pending : List Name}

theorem pathOf_cons (frame : Frame) (frames : List Frame) :
    pathOf (frame :: frames) = pathOf frames ++ [frame.node] := by
  simp [pathOf]

/-- The path was discovered from its start on, and the target of every back edge is its source or
was discovered before. -/
structure InOrder (search : Search) (frames : List Frame) : Prop where
  path : (pathOf frames).Sublist search.discovered
  back : ∀ back ∈ search.backEdges,
    back.2 = back.1 ∨ [back.2, back.1].Sublist search.discovered

namespace InOrder

theorem finish {frame : Frame} (h : InOrder search (frame :: frames)) :
    InOrder search frames where
  path := by
    refine List.Sublist.trans ?_ h.path
    rw [pathOf_cons]
    exact List.sublist_append_left _ _
  back := h.back

theorem advance (h : InOrder search (⟨node, next :: pending⟩ :: frames)) :
    InOrder search (⟨node, pending⟩ :: frames) :=
  ⟨h.path, h.back⟩

theorem discover (h : InOrder search frames) (node : Name) (pending : List Name) :
    InOrder (search.discover node) (⟨node, pending⟩ :: frames) where
  path := by
    rw [pathOf_cons]
    exact h.path.append (List.Sublist.refl _)
  back back hback :=
    (h.back back hback).imp_right fun hsub => hsub.trans (List.sublist_append_left _ _)

/-- An edge back to the path leads to the last node of the path or to one in front of it. -/
theorem closeCycle (h : InOrder search (⟨node, pending⟩ :: frames))
    (hnext : next ∈ pathOf (⟨node, pending⟩ :: frames)) (path : List Name) :
    InOrder (search.closeCycle path node next) (⟨node, pending⟩ :: frames) where
  path := h.path
  back back hback := by
    rcases List.mem_append.mp hback with hback | hback
    · exact h.back back hback
    · obtain rfl := List.mem_singleton.mp hback
      have hpath := h.path
      rw [pathOf_cons] at hnext hpath
      rcases List.mem_append.mp hnext with hbefore | hnode
      · right
        exact ((List.singleton_sublist.mpr hbefore).append (List.Sublist.refl _)).trans hpath
      · exact Or.inl (List.mem_singleton.mp hnode)

theorem explore (h : InOrder search frames) : InOrder (explore graph search frames) [] := by
  fun_induction Search.explore graph search frames with
  | case1 search => exact h
  | case2 search node frames ih => exact ih h.finish
  | case3 search node next pending frames _ ih => exact ih (h.advance.discover next _)
  | case4 search node next pending frames _ hpath ih => exact ih (h.advance.closeCycle hpath _)
  | case5 search node next pending frames _ _ ih => exact ih h.advance

theorem exploreRoot (h : InOrder search []) (root : Name) :
    InOrder (exploreRoot graph search root) [] := by
  rw [Search.exploreRoot]
  split
  · exact (h.discover root _).explore
  · exact h

end InOrder

theorem inOrder_run (entry : Name) (graph : Adjacency) : InOrder (run entry graph) [] :=
  List.foldlRecOn (roots entry graph) (exploreRoot graph)
    (motive := fun search => InOrder search []) ⟨List.nil_sublist _, by simp [start]⟩
    fun _ h root _ => h.exploreRoot root

end Search

/-! ## Positions -/

/-- Names of a part of a list come in the order that they have in the list. -/
theorem idxOf_lt_of_sublist {part all : List Name} (hnodup : all.Nodup) (hpart : part.Sublist all)
    {v w : Name} (hv : v ∈ part) (hw : w ∈ part) (h : all.idxOf v < all.idxOf w) :
    part.idxOf v < part.idxOf w := by
  have hordered := List.pairwise_iff_getElem.mp
    ((CycleAnalysis.pairwise_idxOf hnodup).sublist hpart)
  by_contra hnot
  rcases Nat.lt_or_eq_of_le (Nat.le_of_not_lt hnot) with hlt | heq
  · have hback := hordered _ _ (List.idxOf_lt_length_of_mem hw) (List.idxOf_lt_length_of_mem hv) hlt
    rw [List.getElem_idxOf, List.getElem_idxOf] at hback
    exact Nat.lt_asymm h hback
  · rw [(List.idxOf_inj hw).mp heq] at h
    exact Nat.lt_irrefl _ h

/-! ## Searches without the end -/

/-- The activities that the edges out of a node lead to, as often as an edge leads there. -/
def activitiesFrom (edges : List Edge) (source : Name) : List Name :=
  Walk.activitiesAfter (edges.filter (·.source = source))

theorem activitiesFrom_eq (edges : List Edge) (source : Name) :
    activitiesFrom edges source =
      ((edges.filter (·.source = source)).map (·.target)).filter (· ≠ endNode) := by
  rw [activitiesFrom, Walk.activitiesAfter, List.filter_map]
  rfl

/-- The search of some edges meets activities in depth-first order even if the end is left out and
targets are looked at again, provided that no edge leads out of the end. -/
theorem Search.visits_activities_run {entry : Name} {edges : List Edge} (hentry : entry ≠ endNode)
    (hend : ∀ edge ∈ edges, edge.source ≠ endNode) :
    Visits (activitiesFrom edges) [] (entry :: distinct (edges.map (·.source)))
      ((run entry (Adjacency.ofEdges edges)).discovered.filter (· ≠ endNode)) := by
  let next (name : Name) : List Name := (edges.filter (·.source = name)).map (·.target)
  let roots := entry :: distinct (edges.map (·.source))
  have hall : Visits next [] roots (run entry (Adjacency.ofEdges edges)).discovered :=
    (CycleAnalysis.discoveryOrder_run entry edges).of_distinct_next
  have hroots : roots.filter (· ≠ endNode) = roots := by
    refine List.filter_eq_self.mpr fun name hname => decide_eq_true ?_
    rcases List.mem_cons.mp hname with rfl | hname
    · exact hentry
    · obtain ⟨edge, hedge, rfl⟩ := List.mem_map.mp (mem_distinct.mp hname)
      exact hend edge hedge
  have hleaf : ∀ name, decide (name ≠ endNode) = false → next name = [] := by
    intro name hname
    obtain rfl : name = endNode := by simpa using hname
    refine List.map_eq_nil_iff.mpr (List.filter_eq_nil_iff.mpr fun edge hedge => ?_)
    simpa using hend edge hedge
  have hkept := hall.filter hleaf
  rw [hroots] at hkept
  rw [funext (activitiesFrom_eq edges)]
  exact hkept

/-! ## The order of a walk -/

namespace Walk

section Along

variable {index : FactIndex} (options : DrawingOptions) {entry : Name}

/-- Unless a walk starts at the end, it does not visit it. -/
theorem endNode_not_mem_visited (hentry : entry ≠ endNode) :
    endNode ∉ (along index options entry).visited := by
  intro hmem
  obtain ⟨start, hstart, hpath⟩ :=
    ((visits_along index options entry).reached hmem).resolve_left List.not_mem_nil
  rw [List.mem_singleton.mp hstart] at hpath
  rcases hpath.cases_tail with heq | ⟨activity, -, hlast⟩
  · exact hentry heq.symm
  · exact (mem_activitiesAfter.mp hlast).1 rfl

/-- What an arrow of a walk leads from was visited. -/
theorem source_mem_visited (hkeyed : index.Keyed) {v w : Name}
    (h : Arrow (along index options entry).edges v w) :
    v ∈ (along index options entry).visited := by
  obtain ⟨edge, hedge, rfl, -⟩ := arrow_iff.mp h
  exact (ends_along options entry hkeyed hedge).1

/-- What follows a visited activity is what the edges of the walk lead to. -/
theorem following_eq (hkeyed : index.Keyed) {activity : Name}
    (h : activity ∈ (along index options entry).visited) :
    following index options activity =
      activitiesFrom (along index options entry).edges activity := by
  rw [following, activitiesFrom, filter_source_along options entry hkeyed h]

/-- A walk has visited all sources of its edges by the time when a search starts from them. -/
theorem visits_activities_along (hkeyed : index.Keyed) :
    Visits (activitiesFrom (along index options entry).edges) []
      (entry :: distinct ((along index options entry).edges.map (·.source)))
      (along index options entry).visited := by
  have hwalk : Visits (activitiesFrom (along index options entry).edges) [] [entry]
      (along index options entry).visited :=
    (visits_along index options entry).congr fun _ => following_eq options hkeyed
  refine hwalk.append (Visits.skipAll fun name hname => ?_)
  obtain ⟨edge, hedge, rfl⟩ := List.mem_map.mp (mem_distinct.mp hname)
  exact (ends_along options entry hkeyed hedge).1

/-- The search for cycles in the edges of a walk discovers the activities in the order of the walk,
and the end of the flow somewhere among them. -/
theorem filter_discovered_along (hkeyed : index.Keyed) (hentry : entry ≠ endNode) :
    (Search.run entry (Adjacency.ofEdges (along index options entry).edges)).discovered.filter
        (· ≠ endNode) =
      (along index options entry).visited := by
  have hend : ∀ edge ∈ (along index options entry).edges, edge.source ≠ endNode := by
    intro edge hedge heq
    exact endNode_not_mem_visited options hentry
      (heq ▸ (ends_along options entry hkeyed hedge).1)
  exact (Search.visits_activities_run hentry hend).unique
    (visits_activities_along options hkeyed)

/-- Whatever is discovered in some order is visited in this order, unless the end is part of it. -/
theorem sublist_visited_along (hkeyed : index.Keyed) (hentry : entry ≠ endNode)
    {names : List Name} (hends : ∀ name ∈ names, name ≠ endNode)
    (h : names.Sublist
      (Search.run entry (Adjacency.ofEdges (along index options entry).edges)).discovered) :
    names.Sublist (along index options entry).visited := by
  have hnames : names.filter (· ≠ endNode) = names :=
    List.filter_eq_self.mpr fun name hname => decide_eq_true (hends name hname)
  rw [← filter_discovered_along options hkeyed hentry, ← hnames]
  exact h.filter _

/-- The end is on no cycle, since no edge leads out of it. -/
theorem ne_endNode_of_transGen (hkeyed : index.Keyed) (hentry : entry ≠ endNode) {v : Name}
    (h : TransGen (Arrow (along index options entry).edges) v v) : v ≠ endNode := by
  obtain ⟨w, harrow, -⟩ := TransGen.head'_iff.mp h
  rintro rfl
  exact endNode_not_mem_visited options hentry (source_mem_visited options hkeyed harrow)

/-- The members of a cluster are in the order in which they were visited. -/
theorem cluster_sublist_visited (hkeyed : index.Keyed) (hentry : entry ≠ endNode)
    {cluster : Cluster}
    (h : cluster ∈ (CycleAnalysis.ofEdges entry (along index options entry).edges).clusters) :
    cluster.Sublist (along index options entry).visited :=
  sublist_visited_along options hkeyed hentry
    (fun _ hname => ne_endNode_of_transGen options hkeyed hentry
      (CycleAnalysis.mem_cluster h hname).1)
    (CycleAnalysis.cluster_sublist h)

/-- Clusters are in the order in which their first members were visited. -/
theorem pairwise_head_visited (hkeyed : index.Keyed) (hentry : entry ≠ endNode) :
    (CycleAnalysis.ofEdges entry (along index options entry).edges).clusters.Pairwise fun a b =>
      ∀ v ∈ a.head?, ∀ w ∈ b.head?,
        (along index options entry).visited.idxOf v <
          (along index options entry).visited.idxOf w := by
  let edges := (along index options entry).edges
  let discovered := (Search.run entry (Adjacency.ofEdges edges)).discovered
  have hvisited : (along index options entry).visited.Sublist discovered := by
    rw [← filter_discovered_along options hkeyed hentry]
    exact List.filter_sublist
  have hsorted := CycleAnalysis.pairwise_sortClusters discovered
    ((CycleAnalysis.joined (CycleAnalysis.closures entry edges)).map
      (CycleAnalysis.ordered discovered))
  rw [← CycleAnalysis.clusters_ofEdges] at hsorted
  refine (hsorted.and (CycleAnalysis.pairwise_disjoint_clusters entry edges)).imp_of_mem ?_
  rintro a b ha hb ⟨hle, hdisjoint⟩ v hv w hw
  have hva : v ∈ a := List.mem_of_mem_head? hv
  have hwb : w ∈ b := List.mem_of_mem_head? hw
  have hvv := (cluster_sublist_visited options hkeyed hentry ha).subset hva
  have hwv := (cluster_sublist_visited options hkeyed hentry hb).subset hwb
  refine idxOf_lt_of_sublist (Search.nodup_discovered_run entry edges) hvisited hvv hwv ?_
  refine Nat.lt_of_le_of_ne (hle v hv w hw) fun heq => hdisjoint hva ?_
  rwa [(List.idxOf_inj (hvisited.subset hvv)).mp heq]

/-- A back edge leads to its own source or to an activity that was visited before. -/
theorem backEdge_visited (hkeyed : index.Keyed) (hentry : entry ≠ endNode) {back : Name × Name}
    (h : back ∈ (CycleAnalysis.ofEdges entry (along index options entry).edges).backEdges) :
    back.1 ∈ (along index options entry).visited ∧ back.2 ∈ (along index options entry).visited ∧
      (along index options entry).visited.idxOf back.2 ≤
        (along index options entry).visited.idxOf back.1 := by
  let edges := (along index options entry).edges
  rw [CycleAnalysis.backEdges_ofEdges] at h
  have harrow : Arrow edges back.1 back.2 := Search.arrow_of_backEdges_run entry edges h
  have hclose : ReflTransGen (Arrow edges) back.2 back.1 :=
    ReflTransGen.mono (fun _ _ h => h.1) _ _ (Search.closes_run entry edges h)
  have hcycle : TransGen (Arrow edges) back.2 back.2 :=
    Search.transGen_of_mem_backEdges_run entry edges h
  have hends : ∀ name ∈ [back.2, back.1], name ≠ endNode := by
    refine List.forall_mem_cons.mpr ⟨?_, List.forall_mem_singleton.mpr ?_⟩
    · exact ne_endNode_of_transGen options hkeyed hentry hcycle
    · exact ne_endNode_of_transGen options hkeyed hentry (TransGen.head' harrow hclose)
  obtain ⟨next, hnext, -⟩ := TransGen.head'_iff.mp hcycle
  refine ⟨source_mem_visited options hkeyed harrow, source_mem_visited options hkeyed hnext, ?_⟩
  rcases (Search.inOrder_run entry (Adjacency.ofEdges edges)).back back h with heq | hbefore
  · rw [heq]
  · have hsub := sublist_visited_along options hkeyed hentry hends hbefore
    have hordered := CycleAnalysis.pairwise_idxOf (nodup_visited_along index options entry)
    exact Nat.le_of_lt ((List.pairwise_cons.mp (hordered.sublist hsub)).1 _ List.mem_cons_self)

end Along

/-- A walk over any facts and the search for cycles in its edges go through the activities in the
same order, unless the walk starts at the end of the flow. So the members of every cluster come in
the order in which they were visited, the clusters in the order of the visits to their first
members, and no back edge leads to an activity that was visited after its source. -/
theorem visitOrder_along (classes : List ClassFact) (processors : List ProcessorFact)
    (options : DrawingOptions) {entry : Name} (hentry : entry ≠ endNode) :
    let walk := along (FactIndex.build classes processors) options entry
    let analysis := CycleAnalysis.ofEdges entry walk.edges
    (Search.run entry (Adjacency.ofEdges walk.edges)).discovered.filter (· ≠ endNode) =
        walk.visited ∧
      (∀ cluster ∈ analysis.clusters, cluster ≠ [] ∧ cluster.Sublist walk.visited) ∧
      (analysis.clusters.Pairwise fun a b => ∀ v ∈ a.head?, ∀ w ∈ b.head?,
        walk.visited.idxOf v < walk.visited.idxOf w) ∧
      ∀ back ∈ analysis.backEdges, back.1 ∈ walk.visited ∧ back.2 ∈ walk.visited ∧
        walk.visited.idxOf back.2 ≤ walk.visited.idxOf back.1 := by
  have hkeyed := FactIndex.keyed_build classes processors
  refine ⟨filter_discovered_along options hkeyed hentry, fun cluster h => ⟨?_, ?_⟩,
    pairwise_head_visited options hkeyed hentry, fun back => backEdge_visited options hkeyed hentry⟩
  · exact CycleAnalysis.cluster_ne_nil h
  · exact cluster_sublist_visited options hkeyed hentry h

theorem isNamed_some {target : Name} (h : target ≠ []) : isNamed (some target) = true :=
  decide_eq_true h

/-- A transition without a condition. -/
def transitionTo (target : Name) (h : target ≠ []) : Transition where
  target := some target
  condition := none
  isFeatureFlagged := false
  featureFlagName := none
  fanOutTargets := []
  single_xor_fanOut := isNamed_some h

/-- A processor that declares some transitions and nothing else. -/
def processorOf (activity : Name) (transitions : List Transition) (h : activity ≠ []) :
    ProcessorFact where
  activity := activity
  processorName := "Processor"
  transitions := transitions
  createsManualTask := false
  completesFlow := false
  activity_ne_empty := h
  processorName_ne_empty := by decide

/-- A check leads to a rejection or a payment. -/
def checkProcessor : ProcessorFact :=
  processorOf "Check" [transitionTo "Reject" (by decide), transitionTo "Pay" (by decide)]
    (by decide)

/-- A rejection ends the flow. -/
def rejectProcessor : ProcessorFact :=
  processorOf "Reject" [] (by decide)

/-- A payment is checked again. -/
def payProcessor : ProcessorFact :=
  processorOf "Pay" [transitionTo "Check" (by decide)] (by decide)

/-- The facts of a flow that ends before its last activity is visited. -/
def paymentIndex : FactIndex :=
  FactIndex.build [] [checkProcessor, rejectProcessor, payProcessor]

theorem visited_payment :
    (along paymentIndex .standard checkProcessor.activity).visited =
      [checkProcessor.activity, rejectProcessor.activity, payProcessor.activity] := by
  have hcheck : paymentIndex.processor? checkProcessor.activity = some checkProcessor := by decide
  have hreject : paymentIndex.processor? rejectProcessor.activity = some rejectProcessor := by
    decide
  have hpay : paymentIndex.processor? payProcessor.activity = some payProcessor := by decide
  have hafterCheck : activitiesAfter (edgesOf .standard checkProcessor) ++ [] =
      [rejectProcessor.activity, payProcessor.activity] := by decide
  have hafterReject : activitiesAfter (edgesOf .standard rejectProcessor) ++
      [payProcessor.activity] = [payProcessor.activity] := by decide
  have hafterPay : activitiesAfter (edgesOf .standard payProcessor) ++ [] =
      [checkProcessor.activity] := by decide
  rw [along, continueFrom_of_some List.not_mem_nil hcheck, hafterCheck,
    continueFrom_of_some (by decide) hreject, hafterReject,
    continueFrom_of_some (by decide) hpay, hafterPay, continueFrom_of_mem (by decide),
    continueFrom_nil]
  rfl

/-- The end of the flow is discovered between the rejection and the payment. -/
theorem visitOrder_along_payment :
    checkProcessor.activity ≠ endNode ∧
      (Search.run checkProcessor.activity (Adjacency.ofEdges
          (along paymentIndex .standard checkProcessor.activity).edges)).discovered.filter
        (· ≠ endNode) =
        [checkProcessor.activity, rejectProcessor.activity, payProcessor.activity] := by
  have hentry : checkProcessor.activity ≠ endNode := by decide
  refine ⟨hentry, ?_⟩
  rw [← visited_payment]
  exact (visitOrder_along [] [checkProcessor, rejectProcessor, payProcessor] .standard hentry).1

end Walk

end FlowDiagram
