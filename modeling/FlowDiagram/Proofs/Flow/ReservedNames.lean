import FlowDiagram.Proofs.Flow.DeadEnds

/-!
# Reserved names

The end of a flow and the legend of a diagram are no activities. They are nodes under reserved
names, but nothing keeps facts from using these names: a class may start with an activity that is
called like the end, a transition may lead to the end by its name, and an activity may be called
like the legend. So the reserved names stay apart from activities exactly if the facts that a flow
leads to keep them apart.

## Main definitions

* `CanMeet`: a flow can meet a processor with a property.
* `ProcessorFact.NamesEnd`: a transition leads to the end by its name.
* `Walk.KeepsReserved`: the nodes of a walk keep the reserved names apart.

`reservedNames_ofEntry` is the main result.
-/

namespace FlowDiagram

open Relation

/-- A flow can meet a processor with a property: its entry leads to an activity that has one. -/
def CanMeet (index : FactIndex) (entry : Name) (p : ProcessorFact → Prop) : Prop :=
  ∃ activity processor, ReflTransGen (Follows index) entry activity ∧
    index.processor? activity = some processor ∧ p processor

/-- A transition leads to the end by its name, as if the end were an activity. -/
def ProcessorFact.NamesEnd (processor : ProcessorFact) : Prop :=
  ∃ transition ∈ processor.transitions, endNode ∈ transition.targets

/-- The end follows an activity whose processor completes the flow or names the end. -/
theorem exists_edge_to_end_iff (options : DrawingOptions) (processor : ProcessorFact) :
    (∃ edge ∈ edgesOf options processor, edge.target = endNode) ↔
      processor.signalsCompletion = true ∨ processor.NamesEnd := by
  constructor
  · rintro ⟨edge, hedge, htarget⟩
    rcases List.mem_append.mp hedge with hdeclared | hend
    · obtain ⟨transition, htransition, hedge⟩ := List.mem_flatMap.mp hdeclared
      obtain ⟨target, hmem, rfl⟩ := List.mem_map.mp hedge
      obtain rfl : target = endNode := htarget
      exact Or.inr ⟨transition, htransition, hmem⟩
    · left
      by_contra hopen
      rw [if_neg hopen] at hend
      exact absurd hend List.not_mem_nil
  · rintro (hcompletes | ⟨transition, htransition, hmem⟩)
    · refine ⟨{ source := processor.activity, target := endNode }, ?_, rfl⟩
      refine List.mem_append_right _ ?_
      rw [if_pos hcompletes]
      exact List.mem_singleton_self _
    · obtain ⟨edge, hedge, hstates⟩ :=
        exists_states options (mem_declarations.mpr ⟨htransition, hmem⟩)
      exact ⟨edge, hedge, hstates.target⟩

namespace Walk

/-- The nodes of a walk keep the reserved names apart: the end is at most one node, and it is one
only if some visited activity completes the flow; and no node is called like a legend that is
shown. -/
structure KeepsReserved (options : DrawingOptions) (index : FactIndex) (walk : Walk) : Prop where
  end_once : walk.nodes.count endNode ≤ 1
  end_completes : endNode ∈ walk.nodes → ∃ activity ∈ walk.visited, ∃ processor,
    index.processor? activity = some processor ∧ processor.signalsCompletion = true
  legend_apart : options.showLegend = true → Legend.node ∉ walk.nodes

section Along

variable (index : FactIndex) (options : DrawingOptions) (entry : Name)

theorem exists_visited_iff (p : ProcessorFact → Prop) :
    (∃ activity ∈ (along index options entry).visited, ∃ processor,
        index.processor? activity = some processor ∧ p processor) ↔ CanMeet index entry p := by
  simp only [mem_visited_along, CanMeet, exists_and_left]

/-- A walk reaches the end where the flow is completed, and where the end is named. -/
theorem reachesEnd_along_iff :
    (along index options entry).reachesEnd = true ↔
      CanMeet index entry (·.signalsCompletion = true) ∨
        CanMeet index entry ProcessorFact.NamesEnd := by
  have hconsistent := consistent_along index options entry
  have hedge : ∀ activity, (∃ edge ∈ outgoing index options activity, edge.target = endNode) ↔
      ∃ processor, index.processor? activity = some processor ∧
        (processor.signalsCompletion = true ∨ processor.NamesEnd) := by
    intro activity
    simp only [← exists_edge_to_end_iff options, mem_outgoing_iff]
    constructor
    · rintro ⟨edge, ⟨processor, hprocessor, hedge⟩, htarget⟩
      exact ⟨processor, hprocessor, edge, hedge, htarget⟩
    · rintro ⟨processor, hprocessor, edge, hedge, htarget⟩
      exact ⟨edge, ⟨processor, hprocessor, hedge⟩, htarget⟩
  rw [hconsistent.reachesEnd_eq, hconsistent.edges_eq, List.any_flatMap, List.any_eq_true]
  simp only [List.any_eq_true, decide_eq_true_eq, hedge]
  rw [exists_visited_iff]
  simp only [CanMeet, and_or_left, exists_or]

/-- A walk visits the end as an activity if it starts there. -/
theorem endNode_mem_visited_iff :
    endNode ∈ (along index options entry).visited ↔ entry = endNode := by
  constructor
  · intro hmem
    by_contra hentry
    exact endNode_not_mem_visited options hentry hmem
  · rintro rfl
    exact (mem_visited_along index options endNode).mpr .refl

/-- The end is a node once for the walk that starts there, and once for the walk that reaches it. -/
theorem count_endNode_along :
    (along index options entry).nodes.count endNode =
      (if entry = endNode then 1 else 0) +
        if (along index options entry).reachesEnd then 1 else 0 := by
  have hvisited : (along index options entry).visited.count endNode =
      if entry = endNode then 1 else 0 := by
    rw [(nodup_visited_along index options entry).count]
    simp only [endNode_mem_visited_iff]
  rw [nodes]
  split
  · rw [List.count_append, hvisited, List.count_singleton_self]
  · rw [hvisited, Nat.add_zero]

theorem legend_mem_nodes_iff :
    Legend.node ∈ (along index options entry).nodes ↔
      ReflTransGen (Follows index) entry Legend.node := by
  rw [← mem_visited_along index options entry]
  constructor
  · intro hmem
    exact (mem_nodes hmem).resolve_right (by decide)
  · exact fun hmem => visited_subset_nodes _ hmem

/-- No activity has the name of the legend twice. -/
theorem count_legend_along :
    (along index options entry).nodes.count Legend.node =
      if Legend.node ∈ (along index options entry).nodes then 1 else 0 := by
  have hend : ([endNode] : List Name).count Legend.node = 0 := by decide
  have hcount : (along index options entry).nodes.count Legend.node =
      (along index options entry).visited.count Legend.node := by
    rw [nodes]
    split
    · rw [List.count_append, hend, Nat.add_zero]
    · rfl
  have hmem : Legend.node ∈ (along index options entry).visited ↔
      Legend.node ∈ (along index options entry).nodes :=
    (mem_visited_along index options entry).trans (legend_mem_nodes_iff index options entry).symm
  rw [hcount, (nodup_visited_along index options entry).count]
  exact if_congr hmem rfl rfl

/-- What it takes to keep the reserved names apart. A walk that starts at the name of the end never
does: it has the end twice if the flow is completed, and without completion otherwise. -/
theorem keepsReserved_along_iff :
    (along index options entry).KeepsReserved options index ↔
      entry ≠ endNode ∧
        (CanMeet index entry ProcessorFact.NamesEnd →
          CanMeet index entry (·.signalsCompletion = true)) ∧
        (options.showLegend = true → ¬ReflTransGen (Follows index) entry Legend.node) := by
  have hcount := count_endNode_along index options entry
  have hreaches := reachesEnd_along_iff index options entry
  have hcompletes := exists_visited_iff index options entry (·.signalsCompletion = true)
  have hmem : endNode ∈ (along index options entry).nodes ↔
      entry = endNode ∨ (along index options entry).reachesEnd = true := by
    rw [← List.count_pos_iff, hcount]
    split <;> split <;> simp_all
  constructor
  · rintro ⟨honce, hend, hlegend⟩
    rw [hcompletes] at hend
    refine ⟨?_, fun hnames => hend (hmem.mpr (.inr (hreaches.mpr (.inr hnames)))), fun hshow => ?_⟩
    · intro hentry
      have hreached := hreaches.mpr (.inl (hend (hmem.mpr (.inl hentry))))
      rw [hcount, if_pos hentry, if_pos hreached] at honce
      omega
    · rw [← legend_mem_nodes_iff index options entry]
      exact hlegend hshow
  · rintro ⟨hentry, hnames, hlegend⟩
    refine ⟨?_, fun hend => ?_, fun hshow => ?_⟩
    · rw [hcount, if_neg hentry]
      split <;> omega
    · rw [hcompletes]
      exact (hreaches.mp ((hmem.mp hend).resolve_left hentry)).elim id hnames
    · rw [legend_mem_nodes_iff]
      exact hlegend hshow

end Along

end Walk

/-! ## Node statements under a reserved name -/

/-- A node has one statement in the graph of a flow if it is in a group, and as many as it is listed
otherwise. The legend has one more. -/
theorem Flow.count_nodeStatements {options : DrawingOptions} (index : FactIndex) {flow : Flow}
    (hfits : Fits flow.nodes flow.clusters (flow.shownGroups options) flow.edges) (name : Name) :
    ((flow.graph options index).nodeStatements.map Dot.NodeStatement.name).count name =
      (if name ∈ flow.placed options then 1 else flow.nodes.count name) +
        (legendNodes options.showLegend).count name := by
  have hlegend : (if options.showLegend then legendBox.nodes else []).map Dot.NodeStatement.name =
      legendNodes options.showLegend := by
    rw [legendNodes]
    split <;> rfl
  rw [nodeStatements_graph, List.map_append, map_name_nodeStatement, hlegend, List.count_append,
    List.count_append, (nodup_placed hfits).count]
  congr 1
  by_cases hmem : name ∈ flow.placed options
  · have hnone : (flow.unplaced options).count name = 0 :=
      List.count_eq_zero.mpr fun h => (mem_unplaced.mp h).2 hmem
    rw [if_pos hmem, if_pos hmem, hnone]
  · rw [if_neg hmem, if_neg hmem, Nat.zero_add, unplaced, List.count_filter]
    simpa using hmem

/-! ## Reserved names in flows -/

/-- The nodes of a flow keep the reserved names apart exactly if the flow does not start at the name
of the end, names the end only if it is completed as well, and leads to no activity that is called
like a legend that is shown. The end is a node once if the flow starts there, and once more if it is
reached. A diagram with a legend has two statements for the node of the legend if an activity is
called like it. -/
theorem reservedNames_ofEntry (options : DrawingOptions) (classes : List ClassFact)
    (processors : List ProcessorFact) (fact : ClassFact) :
    let index := FactIndex.build classes processors
    let analysis := FlowAnalysis.ofEntry options index fact.entry
    let graph := (analysis.flow fact.name).graph options index
    let completed := CanMeet index fact.entry (·.signalsCompletion = true)
    let named := CanMeet index fact.entry ProcessorFact.NamesEnd
    (analysis.walk.KeepsReserved options index ↔
        fact.entry ≠ endNode ∧ (named → completed) ∧
          (options.showLegend = true → ¬ReflTransGen (Follows index) fact.entry Legend.node)) ∧
      (analysis.walk.nodes.count endNode =
        (if fact.entry = endNode then 1 else 0) + if analysis.walk.reachesEnd then 1 else 0) ∧
      (analysis.walk.reachesEnd = true ↔ completed ∨ named) ∧
      (graph.nodeStatements.map Dot.NodeStatement.name).count Legend.node =
        (if Legend.node ∈ analysis.walk.nodes then 1 else 0) +
          if options.showLegend then 1 else 0 := by
  intro index analysis graph completed named
  refine ⟨Walk.keepsReserved_along_iff index options fact.entry,
    Walk.count_endNode_along index options fact.entry,
    Walk.reachesEnd_along_iff index options fact.entry, ?_⟩
  have hfits : Fits (analysis.flow fact.name).nodes (analysis.flow fact.name).clusters
      ((analysis.flow fact.name).shownGroups options) (analysis.flow fact.name).edges := by
    rw [FlowAnalysis.shownGroups_flow]
    exact FlowAnalysis.fits_ofEntry options fact.entry (FactIndex.keyed_build classes processors)
  have hplaced : (if Legend.node ∈ (analysis.flow fact.name).placed options then 1
      else (analysis.flow fact.name).nodes.count Legend.node) =
        if Legend.node ∈ analysis.walk.nodes then 1 else 0 := by
    split
    · rename_i hmem
      have hnode : Legend.node ∈ analysis.walk.nodes := Flow.placed_subset_nodes hfits hmem
      rw [if_pos hnode]
    · exact Walk.count_legend_along index options fact.entry
  have hshown : (Flow.legendNodes options.showLegend).count Legend.node =
      if options.showLegend then 1 else 0 := by
    rw [Flow.legendNodes]
    split <;> rfl
  rw [Flow.count_nodeStatements index hfits, hplaced, hshown]

/-- A class whose flow starts with a given activity. -/
def classFrom (entry : Name) : ClassFact where
  name := "Case"
  sourceLocation := none
  supertypeNames := []
  initialActivity := some entry
  name_ne_empty := by decide

/-- The processor of an activity that is called like the end, and that completes the flow. -/
def endProcessor : ProcessorFact :=
  Walk.processorOf endNode [] (by decide)

/-- A processor that leads to the end by its name, and that does not complete the flow. -/
def leadsToEnd : ProcessorFact :=
  Walk.processorOf "Start" [Walk.transitionTo endNode (by decide)] (by decide)

/-- Facts do not have to keep the reserved names apart: a flow may start at the end, in which case
the end is there twice if the flow is completed there; it may come to the end without completion;
and it may lead to an activity that is called like the legend. -/
theorem not_keepsReserved :
    let keeps (options : DrawingOptions) (entry : Name) (processors : List ProcessorFact) :=
      let index := FactIndex.build [classFrom entry] processors
      (Walk.along index options (classFrom entry).entry).KeepsReserved options index
    ¬keeps .standard endNode [endProcessor] ∧
      ¬keeps .standard "Start" [leadsToEnd] ∧ ¬keeps { showLegend := true } Legend.node [] := by
  intro keeps
  refine ⟨fun hkeeps => ?_, fun hkeeps => ?_, fun hkeeps => ?_⟩
  · exact ((Walk.keepsReserved_along_iff _ _ _).mp hkeeps).1 rfl
  · let index := FactIndex.build [classFrom "Start"] [leadsToEnd]
    have hstart : index.processor? "Start" = some leadsToEnd := by decide
    have honly : ∀ activity, ReflTransGen (Follows index) "Start" activity →
        activity = Text.ofString "Start" := by
      intro activity hpath
      induction hpath with
      | refl => rfl
      | tail _ hfollows ih =>
        subst ih
        obtain ⟨hnext, processor, hprocessor, transition, htransition, htarget⟩ := hfollows
        obtain rfl := Option.some.inj (hprocessor.symm.trans hstart)
        obtain rfl := List.mem_singleton.mp htransition
        exact absurd (List.mem_singleton.mp htarget) hnext
    have hnames : CanMeet index "Start" ProcessorFact.NamesEnd :=
      ⟨_, leadsToEnd, .refl, hstart, _, List.mem_singleton_self _, List.mem_singleton_self _⟩
    obtain ⟨activity, processor, hpath, hprocessor, hcompletes⟩ :=
      ((Walk.keepsReserved_along_iff _ _ _).mp hkeeps).2.1 hnames
    rw [honly activity hpath, hstart] at hprocessor
    obtain rfl := Option.some.inj hprocessor
    exact absurd hcompletes (by decide)
  · exact ((Walk.keepsReserved_along_iff _ _ _).mp hkeeps).2.2 rfl .refl

end FlowDiagram
