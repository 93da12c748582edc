import FlowDiagram.Proofs.Fact.Index
import FlowDiagram.Proofs.Graph.Arrows
import FlowDiagram.Proofs.Graph.Outbound
import FlowDiagram.Proofs.Graph.Visits

/-!
# What a walk meets

A walk visits the activities in depth-first order, and everything else it records follows from the
activities it visited: the edges out of them, those among them that have no processor, and whether
the end of the flow is reached.

## Main definitions

* `outgoing`: the edges out of an activity.
* `Walk.Consistent`: what a walk has recorded is what belongs to the activities it visited.

`Walk.visits_along` says which activities a walk visits, `Walk.ends_along` that its edges join its
nodes, and `Walk.mapEdges_along` that it depends on nothing but the edges out of every activity.
-/

namespace FlowDiagram

open Relation

/-- The edges out of an activity, if it has a processor. -/
def outgoing (index : FactIndex) (options : DrawingOptions) (activity : Name) : List Edge :=
  match index.processor? activity with
  | none => []
  | some processor => edgesOf options processor

theorem outgoing_of_none {index : FactIndex} {options : DrawingOptions} {activity : Name}
    (h : index.processor? activity = none) : outgoing index options activity = [] := by
  rw [outgoing, h]

theorem outgoing_of_some {index : FactIndex} {options : DrawingOptions} {activity : Name}
    {processor : ProcessorFact} (h : index.processor? activity = some processor) :
    outgoing index options activity = edgesOf options processor := by
  rw [outgoing, h]

/-- An edge leads out of an activity if it is one of the processor of the activity. -/
theorem mem_outgoing_iff {index : FactIndex} {options : DrawingOptions} {activity : Name}
    {edge : Edge} :
    edge ∈ outgoing index options activity ↔
      ∃ processor, index.processor? activity = some processor ∧
        edge ∈ edgesOf options processor := by
  cases hprocessor : index.processor? activity with
  | none => simp [outgoing_of_none hprocessor]
  | some processor => simp [outgoing_of_some hprocessor]

/-- Exactly the activities without a processor have no edges. -/
theorem outgoing_eq_nil_iff {index : FactIndex} (options : DrawingOptions) {activity : Name} :
    outgoing index options activity = [] ↔ index.processor? activity = none := by
  cases hprocessor : index.processor? activity with
  | none => simp [outgoing_of_none hprocessor]
  | some processor => simp [outgoing_of_some hprocessor, edgesOf_ne_nil]

theorem source_of_mem_edgesOf {options : DrawingOptions} {processor : ProcessorFact} {edge : Edge}
    (h : edge ∈ edgesOf options processor) : edge.source = processor.activity := by
  rcases states_or_end h with ⟨_, _, hstates⟩ | rfl
  · exact hstates.source
  · rfl

/-- The edges out of an activity start there. -/
theorem source_of_mem_outgoing {index : FactIndex} (hkeyed : index.Keyed) {options : DrawingOptions}
    {activity : Name} {edge : Edge} (h : edge ∈ outgoing index options activity) :
    edge.source = activity := by
  obtain ⟨processor, hprocessor, h⟩ := mem_outgoing_iff.mp h
  rw [source_of_mem_edgesOf h, hkeyed activity processor hprocessor]

namespace Walk

variable {index : FactIndex} {options : DrawingOptions} {walk : Walk} {activity : Name}

theorem mem_activitiesAfter {edges : List Edge} {next : Name} :
    next ∈ activitiesAfter edges ↔ next ≠ endNode ∧ ∃ edge ∈ edges, edge.target = next := by
  simp only [activitiesAfter, List.mem_map, List.mem_filter, decide_eq_true_eq]
  constructor
  · rintro ⟨edge, ⟨he, hne⟩, rfl⟩
    exact ⟨hne, edge, he, rfl⟩
  · rintro ⟨hne, edge, he, rfl⟩
    exact ⟨edge, ⟨he, hne⟩, rfl⟩

/-- The activities that follow one, in the order in which they are visited. -/
def following (index : FactIndex) (options : DrawingOptions) (activity : Name) : List Name :=
  activitiesAfter (outgoing index options activity)

/-- A walk has recorded the edges out of the activities it visited, those of them without a
processor, and whether some edge leads to the end. -/
structure Consistent (index : FactIndex) (options : DrawingOptions) (walk : Walk) : Prop where
  edges_eq : walk.edges = walk.visited.flatMap (outgoing index options)
  missing_eq : walk.missing = walk.visited.filter fun a => (index.processor? a).isNone
  reachesEnd_eq : walk.reachesEnd = walk.edges.any (·.target = endNode)

namespace Consistent

theorem start (index : FactIndex) (options : DrawingOptions) (entry : Name) :
    Consistent index options { entry } where
  edges_eq := rfl
  missing_eq := rfl
  reachesEnd_eq := rfl

theorem visitMissing (h : Consistent index options walk)
    (hnone : index.processor? activity = none) :
    Consistent index options (walk.visitMissing activity) where
  edges_eq := by
    simp [Walk.visitMissing, h.edges_eq, outgoing_of_none hnone]
  missing_eq := by
    simp [Walk.visitMissing, h.missing_eq, hnone]
  reachesEnd_eq := h.reachesEnd_eq

theorem visit (h : Consistent index options walk) {processor : ProcessorFact}
    (hsome : index.processor? activity = some processor) :
    Consistent index options (walk.visit activity (edgesOf options processor)) where
  edges_eq := by
    simp [Walk.visit, h.edges_eq, outgoing_of_some hsome]
  missing_eq := by
    simp [Walk.visit, h.missing_eq, hsome]
  reachesEnd_eq := by
    simp [Walk.visit, h.reachesEnd_eq]

/-- A walk stays consistent as it goes on, and visits what is pending in depth-first order. -/
theorem continueFrom (h : Consistent index options walk) (pending : List Name) :
    Consistent index options (Walk.continueFrom index options walk pending) ∧
      Visits (following index options) walk.visited pending
        (Walk.continueFrom index options walk pending).visited := by
  fun_induction Walk.continueFrom index options walk pending with
  | case1 walk => exact ⟨h, .done⟩
  | case2 walk activity pending hvisited ih =>
    obtain ⟨hconsistent, hvisits⟩ := ih h
    exact ⟨hconsistent, .skip hvisited hvisits⟩
  | case3 walk activity pending hvisited hnone ih =>
    obtain ⟨hconsistent, hvisits⟩ := ih (h.visitMissing hnone)
    refine ⟨hconsistent, .enter hvisited ?_ hvisits⟩
    rw [following, outgoing_of_none hnone]
    exact .done
  | case4 walk activity pending hvisited processor hsome edges ih =>
    obtain ⟨hconsistent, hvisits⟩ := ih (h.visit hsome)
    refine ⟨hconsistent, .enter_append hvisited ?_⟩
    rw [following, outgoing_of_some hsome]
    exact hvisits

end Consistent

/-! ## One step of a walk -/

section Step

variable {pending : List Name}

theorem continueFrom_nil : continueFrom index options walk [] = walk := by
  rw [continueFrom]

/-- Activities that were visited are skipped. -/
theorem continueFrom_of_mem (h : activity ∈ walk.visited) :
    continueFrom index options walk (activity :: pending) =
      continueFrom index options walk pending := by
  rw [continueFrom, if_pos h]

/-- Nothing follows an activity without a processor. -/
theorem continueFrom_of_none (h : activity ∉ walk.visited)
    (hnone : index.processor? activity = none) :
    continueFrom index options walk (activity :: pending) =
      continueFrom index options (walk.visitMissing activity) pending := by
  rw [continueFrom, if_neg h]
  split
  · rfl
  · rename_i processor hsome
    exact absurd (hnone.symm.trans hsome) (Option.some_ne_none processor).symm

/-- The activities behind one with a processor are visited before the others that are pending. -/
theorem continueFrom_of_some (h : activity ∉ walk.visited) {processor : ProcessorFact}
    (hprocessor : index.processor? activity = some processor) :
    continueFrom index options walk (activity :: pending) =
      continueFrom index options (walk.visit activity (edgesOf options processor))
        (activitiesAfter (edgesOf options processor) ++ pending) := by
  rw [continueFrom, if_neg h]
  split
  · rename_i hnone
    exact absurd (hnone.symm.trans hprocessor) (Option.some_ne_none processor).symm
  · rename_i other hother
    rw [Option.some.inj (hother.symm.trans hprocessor)]

end Step

/-! ## Many steps of a walk -/

theorem isPrefix_continueFrom (walk : Walk) (pending : List Name) :
    walk.visited <+: (continueFrom index options walk pending).visited := by
  fun_induction continueFrom index options walk pending with
  | case1 walk => exact List.prefix_refl _
  | case2 walk activity pending _ ih => exact ih
  | case3 walk activity pending _ _ ih => exact (List.prefix_append _ _).trans ih
  | case4 walk activity pending _ processor _ edges ih =>
    exact (List.prefix_append _ _).trans ih

/-- What is pending first is walked to its end before the rest is looked at. -/
theorem continueFrom_append (walk : Walk) (pending rest : List Name) :
    continueFrom index options walk (pending ++ rest) =
      continueFrom index options (continueFrom index options walk pending) rest := by
  fun_induction continueFrom index options walk pending with
  | case1 walk => rfl
  | case2 walk activity pending hvisited ih =>
    rw [List.cons_append, continueFrom_of_mem hvisited]
    exact ih
  | case3 walk activity pending hvisited hnone ih =>
    rw [List.cons_append, continueFrom_of_none hvisited hnone]
    exact ih
  | case4 walk activity pending hvisited processor hsome edges ih =>
    rw [List.cons_append, continueFrom_of_some hvisited hsome, ← List.append_assoc]
    exact ih

/-- Whether activities that were visited are left out when they become pending, or only when their
turn comes, makes no difference. -/
theorem continueFrom_filter (index : FactIndex) (options : DrawingOptions) {walk : Walk}
    {seen : List Name} (hseen : seen ⊆ walk.visited) (pending : List Name) :
    continueFrom index options walk (pending.filter (· ∉ seen)) =
      continueFrom index options walk pending := by
  induction pending generalizing walk with
  | nil => rfl
  | cons activity pending ih =>
    by_cases hmem : activity ∈ seen
    · rw [List.filter_cons_of_neg (by simpa using hmem), continueFrom_of_mem (hseen hmem)]
      exact ih hseen
    · rw [List.filter_cons_of_pos (by simpa using hmem), ← List.singleton_append,
        ← List.singleton_append (l := pending), continueFrom_append, continueFrom_append]
      exact ih fun name hname => (isPrefix_continueFrom walk [activity]).subset (hseen hname)

/-! ## The walk from an activity -/

section Along

variable (index : FactIndex) (options : DrawingOptions) (entry : Name)

theorem consistent_along : Consistent index options (along index options entry) :=
  ((Consistent.start index options entry).continueFrom [entry]).1

/-- A walk visits its entry and whatever follows in depth-first order. -/
theorem visits_along :
    Visits (following index options) [] [entry] (along index options entry).visited :=
  ((Consistent.start index options entry).continueFrom [entry]).2

theorem entry_continueFrom (walk : Walk) (pending : List Name) :
    (continueFrom index options walk pending).entry = walk.entry := by
  fun_induction continueFrom index options walk pending with
  | case1 walk => rfl
  | case2 walk activity pending _ ih => exact ih
  | case3 walk activity pending _ _ ih => exact ih
  | case4 walk activity pending _ processor _ edges ih => exact ih

theorem entry_along : (along index options entry).entry = entry :=
  entry_continueFrom index options _ _

theorem nodup_visited_along : (along index options entry).visited.Nodup :=
  (visits_along index options entry).nodup .nil

theorem mem_missing_along {activity : Name} :
    activity ∈ (along index options entry).missing ↔
      activity ∈ (along index options entry).visited ∧ index.processor? activity = none := by
  rw [(consistent_along index options entry).missing_eq, List.mem_filter, Option.isNone_iff_eq_none]

variable {index}

/-- The edges of a walk are those out of the activities it visits. -/
theorem mem_edges_along (hkeyed : index.Keyed) {edge : Edge} :
    edge ∈ (along index options entry).edges ↔
      edge.source ∈ (along index options entry).visited ∧
        edge ∈ outgoing index options edge.source := by
  rw [(consistent_along index options entry).edges_eq, List.mem_flatMap]
  constructor
  · rintro ⟨activity, hactivity, hedge⟩
    rw [source_of_mem_outgoing hkeyed hedge]
    exact ⟨hactivity, hedge⟩
  · rintro ⟨hvisited, hedge⟩
    exact ⟨edge.source, hvisited, hedge⟩

/-- The edges that a walk has out of a visited activity are all of them. -/
theorem filter_source_along (hkeyed : index.Keyed) {activity : Name}
    (h : activity ∈ (along index options entry).visited) :
    (along index options entry).edges.filter (·.source = activity) =
      outgoing index options activity := by
  rw [(consistent_along index options entry).edges_eq]
  exact filter_flatMap_of_nodup (nodup_visited_along index options entry)
    (fun _ _ => source_of_mem_outgoing hkeyed) h

/-- An arrow leads out of a visited activity unless it has no processor. -/
theorem exists_arrow_iff (hkeyed : index.Keyed) {activity : Name}
    (h : activity ∈ (along index options entry).visited) :
    (∃ next, Arrow (along index options entry).edges activity next) ↔
      activity ∉ (along index options entry).missing := by
  rw [mem_missing_along, ← outgoing_eq_nil_iff options]
  constructor
  · rintro ⟨next, harrow⟩ ⟨-, hnil⟩
    obtain ⟨edge, hedge, rfl, -⟩ := arrow_iff.mp harrow
    rw [mem_edges_along options entry hkeyed, hnil] at hedge
    exact absurd hedge.2 List.not_mem_nil
  · intro hsome
    obtain ⟨edge, hedge⟩ := List.exists_mem_of_ne_nil _ fun hnil => hsome ⟨h, hnil⟩
    have hsource := source_of_mem_outgoing hkeyed hedge
    refine ⟨edge.target, arrow_iff.mpr ⟨edge, ?_, hsource, rfl⟩⟩
    rw [mem_edges_along options entry hkeyed, hsource]
    exact ⟨h, hedge⟩

/-- The edges of a walk join its nodes. -/
theorem ends_along (hkeyed : index.Keyed) {edge : Edge}
    (h : edge ∈ (along index options entry).edges) :
    edge.source ∈ (along index options entry).visited ∧
      edge.target ∈ (along index options entry).nodes := by
  have hconsistent := consistent_along index options entry
  obtain ⟨hsource, hedge⟩ := (mem_edges_along options entry hkeyed).mp h
  refine ⟨hsource, ?_⟩
  by_cases hend : edge.target = endNode
  · have hreaches : (along index options entry).reachesEnd = true := by
      rw [hconsistent.reachesEnd_eq, List.any_eq_true]
      exact ⟨edge, h, decide_eq_true hend⟩
    rw [nodes, if_pos hreaches, hend]
    exact List.mem_append_right _ List.mem_cons_self
  · have hvisited : edge.target ∈ (along index options entry).visited := by
      refine (visits_along index options entry).mem_of_next hsource List.not_mem_nil ?_
      exact mem_activitiesAfter.mpr ⟨hend, edge, hedge, rfl⟩
    rw [nodes]
    split
    · exact List.mem_append_left _ hvisited
    · exact hvisited

theorem visited_subset_nodes (walk : Walk) : walk.visited ⊆ walk.nodes := by
  rw [nodes]
  split
  · exact List.subset_append_left _ _
  · exact List.Subset.refl _

/-- A node of a walk is an activity it visits, or the end. -/
theorem mem_nodes {walk : Walk} {name : Name} (h : name ∈ walk.nodes) :
    name ∈ walk.visited ∨ name = endNode := by
  rw [nodes] at h
  split at h
  · exact (List.mem_append.mp h).imp_right List.mem_singleton.mp
  · exact Or.inl h

/-- Whatever an arrow of a walk leads from or to is a node. -/
theorem nodes_of_arrow (hkeyed : index.Keyed) {v w : Name}
    (h : Arrow (along index options entry).edges v w) :
    v ∈ (along index options entry).nodes ∧ w ∈ (along index options entry).nodes := by
  obtain ⟨edge, hedge, rfl, rfl⟩ := arrow_iff.mp h
  obtain ⟨hsource, htarget⟩ := ends_along options entry hkeyed hedge
  exact ⟨visited_subset_nodes _ hsource, htarget⟩

end Along

/-! ## What a walk depends on -/

/-- A walk with its edges changed one by one. -/
def mapEdges (f : Edge → Edge) (walk : Walk) : Walk :=
  { walk with edges := walk.edges.map f }

theorem mapEdges_id (walk : Walk) : walk.mapEdges id = walk := by
  rw [mapEdges, List.map_id]

theorem activitiesAfter_map {f : Edge → Edge} (hf : ∀ edge, (f edge).target = edge.target)
    (edges : List Edge) : activitiesAfter (edges.map f) = activitiesAfter edges := by
  simp [activitiesAfter, List.filter_map, Function.comp_def, hf]

theorem any_target_map {f : Edge → Edge} (hf : ∀ edge, (f edge).target = edge.target)
    (edges : List Edge) :
    (edges.map f).any (·.target = endNode) = edges.any (·.target = endNode) := by
  simp [List.any_map, Function.comp_def, hf]

/-- Walks over facts that have the same processors are the same up to a change of edges, if the
edges out of every activity are. Only the activities that are visited matter. -/
theorem mapEdges_along {index other : FactIndex} {options options' : DrawingOptions}
    {f : Edge → Edge} (hf : ∀ edge, (f edge).target = edge.target) {entry : Name}
    (hnone : ∀ activity ∈ (along index options entry).visited,
      (index.processor? activity).isNone = (other.processor? activity).isNone)
    (houtgoing : ∀ activity ∈ (along index options entry).visited,
      (outgoing index options activity).map f = (outgoing other options' activity).map f) :
    (along index options entry).mapEdges f = (along other options' entry).mapEdges f := by
  have hfollowing : ∀ activity ∈ (along index options entry).visited,
      following index options activity = following other options' activity := by
    intro activity hactivity
    rw [following, following, ← activitiesAfter_map hf, houtgoing activity hactivity,
      activitiesAfter_map hf]
  have hvisited : (along index options entry).visited = (along other options' entry).visited :=
    ((visits_along index options entry).congr hfollowing).unique (visits_along other options' entry)
  have hconsistent := consistent_along index options entry
  have hother := consistent_along other options' entry
  have hedges : (along index options entry).edges.map f =
      (along other options' entry).edges.map f := by
    rw [hconsistent.edges_eq, hother.edges_eq, List.map_flatMap, List.map_flatMap, ← hvisited]
    exact List.flatMap_congr houtgoing
  have hmissing : (along index options entry).missing = (along other options' entry).missing := by
    rw [hconsistent.missing_eq, hother.missing_eq, ← hvisited]
    exact List.filter_congr hnone
  have hreaches :
      (along index options entry).reachesEnd = (along other options' entry).reachesEnd := by
    rw [hconsistent.reachesEnd_eq, hother.reachesEnd_eq, ← any_target_map hf, hedges,
      any_target_map hf]
  rw [mapEdges, mapEdges, Walk.mk.injEq]
  exact ⟨by rw [entry_along, entry_along], hedges, hvisited, hmissing, hreaches⟩

/-- Walks over facts that declare the same are the same. -/
theorem along_congr {index other : FactIndex} {options options' : DrawingOptions} {entry : Name}
    (hnone : ∀ activity ∈ (along index options entry).visited,
      (index.processor? activity).isNone = (other.processor? activity).isNone)
    (houtgoing : ∀ activity ∈ (along index options entry).visited,
      outgoing index options activity = outgoing other options' activity) :
    along index options entry = along other options' entry := by
  have h := mapEdges_along (f := id) (fun _ => rfl) hnone
    fun activity hactivity => congrArg (List.map id) (houtgoing activity hactivity)
  rwa [mapEdges_id, mapEdges_id] at h

end Walk

end FlowDiagram
