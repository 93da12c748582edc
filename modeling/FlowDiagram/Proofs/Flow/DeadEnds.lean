import FlowDiagram.Proofs.Diagram.Outline
import FlowDiagram.Proofs.Flow.Layout
import FlowDiagram.Proofs.Graph.VisitOrder

/-!
# Dead ends

A flow may lead to an activity of which no processor is known. Such a gap in the facts is the only
dead end in a diagram, and it is marked as one: its label starts with a question mark, it is in no
cycle, and what leads to it is dashed, or green if it is a fan-out. Every other activity has a way
out, since a transition has a target and a processor without transitions ends the flow.

## Main definitions

* `Dot.Graph.nodeStatements`: the node statements of a graph, those of its subgraphs among them.
* `EdgeStyle.dashed`, `EdgeStyle.fanOut`: the styles of edges that lead to a gap.
* `FlowAnalysis.MarksGap`: what a diagram shows of an activity without a processor.

`deadEnds_ofEntry` is the main result.
-/

namespace FlowDiagram

open Relation

/-! ## Node statements -/

namespace Dot

/-- The node statements in a statement. -/
def Statement.nodeStatements : Statement → List NodeStatement
  | .node statement => [statement]
  | .edge _ => []
  | .subgraph box => box.nodes

/-- The node statements of a graph, in subgraphs or outside. -/
def Graph.nodeStatements (graph : Graph) : List NodeStatement :=
  graph.statements.flatMap Statement.nodeStatements

end Dot

/-- The nodes of a flow have their statements in its graph, those in groups first, and the legend
has its own. -/
theorem Flow.nodeStatements_graph (options : DrawingOptions) (index : FactIndex) (flow : Flow) :
    (flow.graph options index).nodeStatements =
      (flow.placed options ++ flow.unplaced options).map
          (nodeStatement (flow.context options index)) ++
        if options.showLegend then legendBox.nodes else [] := by
  have hlegend : (if options.showLegend then [Dot.Statement.subgraph legendBox] else []).flatMap
      Dot.Statement.nodeStatements = if options.showLegend then legendBox.nodes else [] := by
    split <;> rfl
  simp only [Dot.Graph.nodeStatements, graph, statements, List.flatMap_append, List.flatMap_map,
    hlegend, Dot.Statement.nodeStatements, flatMap_none, List.append_nil, ← List.map_eq_flatMap,
    iterationBox, cycleBox, ← List.map_flatMap, ← flatMap_boxes, boxes, List.map_append]

/-- Every node of a flow has its statement in the graph. -/
theorem Flow.nodeStatement_mem_graph (options : DrawingOptions) (index : FactIndex) {flow : Flow}
    {name : Name} (h : name ∈ flow.nodes) :
    nodeStatement (flow.context options index) name ∈
      (flow.graph options index).nodeStatements := by
  rw [nodeStatements_graph]
  refine List.mem_append_left _ (List.mem_map_of_mem (List.mem_append.mpr ?_))
  by_cases hplaced : name ∈ flow.placed options
  · exact Or.inl hplaced
  · exact Or.inr (mem_unplaced.mpr ⟨h, hplaced⟩)

/-! ## The marks of a gap -/

/-- The label of an activity without a processor starts with a question mark. It cannot have the
sign of a manual task in front, since it is the processor that creates one. -/
theorem nodeLabel_of_missing {context : StyleContext} {activity : Name}
    (hend : activity ≠ endNode) (hnone : context.index.processor? activity = none)
    (hmissing : activity ∈ context.missing) :
    nodeLabel context activity =
      missingMark ++ " " ++ displayName context.options.nameTokens activity := by
  have hmanual : context.index.createsManualTask activity = false := by
    rw [FactIndex.createsManualTask, hnone, Option.any_none]
  rw [nodeLabel, if_neg hend, hmanual, if_neg Bool.false_ne_true,
    if_pos (List.contains_iff_mem.mpr hmissing)]

namespace EdgeStyle

/-- The style of a fan-out. -/
def fanOut : EdgeStyle :=
  { colour := some fanOutColour, penWidth := some "2", style := some "bold" }

/-- The style of an edge to an activity without a processor. -/
def dashed : EdgeStyle :=
  { style := some "dashed" }

/-- However many transitions an edge to a gap stands for, it is dashed unless it is a fan-out. -/
theorem ofEdge_of_missing (options : DrawingOptions) {missing : List Name} {edge : Edge}
    (hback : edge.isBackEdge = false) (hmissing : edge.target ∈ missing) :
    ofEdge options missing edge = if edge.isFanOut then fanOut else dashed := by
  rw [ofEdge, hback, if_neg Bool.false_ne_true, if_pos (List.contains_iff_mem.mpr hmissing)]
  rfl

end EdgeStyle

/-- What a diagram shows of an activity without a processor. -/
structure FlowAnalysis.MarksGap (options : DrawingOptions) (index : FactIndex)
    (analysis : FlowAnalysis) (name gap : Name) : Prop where
  label : nodeLabel ((analysis.flow name).context options index) gap =
    missingMark ++ " " ++ displayName options.nameTokens gap
  shown : Flow.nodeStatement ((analysis.flow name).context options index) gap ∈
    ((analysis.flow name).graph options index).nodeStatements
  outside : ∀ cluster ∈ analysis.cycles.clusters, gap ∉ cluster
  forward : ∀ edge ∈ analysis.edges, edge.target = gap → edge.isBackEdge = false
  style : ∀ edge ∈ analysis.edges, edge.target = gap →
    EdgeStyle.ofEdge options analysis.walk.missing edge =
      if edge.isFanOut then .fanOut else .dashed

/-! ## Ways out -/

/-- A cycle leads out of each of its activities, so all of them have processors. -/
theorem Walk.not_mem_missing_of_transGen {index : FactIndex} (hkeyed : index.Keyed)
    (options : DrawingOptions) (entry : Name) {activity : Name}
    (h : TransGen (Arrow (along index options entry).edges) activity activity) :
    activity ∉ (along index options entry).missing := by
  obtain ⟨next, harrow, -⟩ := TransGen.head'_iff.mp h
  have hvisited := source_mem_visited options hkeyed harrow
  exact (exists_arrow_iff options entry hkeyed hvisited).mp ⟨next, harrow⟩

namespace FlowAnalysis

/-- An edge is drawn out of every activity that an arrow of the walk leads out of. -/
theorem exists_source_iff (options : DrawingOptions) (index : FactIndex)
    (entry activity : Name) :
    (∃ edge ∈ (ofEntry options index entry).edges, edge.source = activity) ↔
      ∃ next, Arrow (Walk.along index options entry).edges activity next := by
  have hdrawn (next : Name) : Arrow (ofEntry options index entry).edges activity next ↔
      Arrow (Walk.along index options entry).edges activity next := by
    rw [edges_ofEntry, arrow_drawnEdges]
  constructor
  · rintro ⟨edge, hedge, hsource⟩
    exact ⟨edge.target, (hdrawn edge.target).mp (arrow_iff.mpr ⟨edge, hedge, hsource, rfl⟩)⟩
  · rintro ⟨next, harrow⟩
    obtain ⟨edge, hedge, hsource, -⟩ := arrow_iff.mp ((hdrawn next).mpr harrow)
    exact ⟨edge, hedge, hsource⟩

section

variable {index : FactIndex} (hkeyed : index.Keyed) (options : DrawingOptions) {entry : Name}

include hkeyed

/-- Only the activities without a processor are left without an edge. -/
theorem isDeadEnd_iff {activity : Name}
    (h : activity ∈ (ofEntry options index entry).walk.visited) :
    (∀ edge ∈ (ofEntry options index entry).edges, edge.source ≠ activity) ↔
      activity ∈ (ofEntry options index entry).walk.missing := by
  have hdead : (∀ edge ∈ (ofEntry options index entry).edges, edge.source ≠ activity) ↔
      ¬ ∃ edge ∈ (ofEntry options index entry).edges, edge.source = activity := by
    simp only [not_exists, not_and]
  rw [hdead, exists_source_iff, Walk.exists_arrow_iff options entry hkeyed h]
  exact not_not

/-- No edge leads back to an activity without a processor. -/
theorem isBackEdge_of_target_mem_missing {edge : Edge}
    (h : edge ∈ (ofEntry options index entry).edges)
    (hmissing : edge.target ∈ (ofEntry options index entry).walk.missing) :
    edge.isBackEdge = false := by
  rw [← Bool.not_eq_true, ← isUnconstrained_rendered options (ofEntry options index entry),
    isUnconstrained_iff options index entry h]
  intro hback
  exact Walk.not_mem_missing_of_transGen hkeyed options entry
    (Search.transGen_of_mem_backEdges_run entry _ hback) hmissing

/-- Every gap that a flow leads to is marked. -/
theorem marksGap_ofEntry (hentry : entry ≠ endNode) (name : Name) {gap : Name}
    (h : gap ∈ (ofEntry options index entry).walk.missing) :
    (ofEntry options index entry).MarksGap options index name gap := by
  obtain ⟨hvisited, hnone⟩ := (Walk.mem_missing_along index options entry).mp h
  have hend : gap ≠ endNode := by
    rintro rfl
    exact Walk.endNode_not_mem_visited options hentry hvisited
  have hforward : ∀ edge ∈ (ofEntry options index entry).edges, edge.target = gap →
      edge.isBackEdge = false := by
    rintro edge hedge rfl
    exact isBackEdge_of_target_mem_missing hkeyed options hedge h
  refine ⟨nodeLabel_of_missing hend hnone h, ?_, fun cluster hcluster hmem => ?_, hforward, ?_⟩
  · exact Flow.nodeStatement_mem_graph options index (Walk.visited_subset_nodes _ hvisited)
  · exact Walk.not_mem_missing_of_transGen hkeyed options entry
      (CycleAnalysis.mem_cluster hcluster hmem).1 h
  · rintro edge hedge rfl
    exact EdgeStyle.ofEdge_of_missing options (hforward edge hedge rfl) h

/-- No edge leads out of the end. -/
theorem source_ne_endNode (hentry : entry ≠ endNode) {edge : Edge}
    (h : edge ∈ (ofEntry options index entry).edges) : edge.source ≠ endNode := by
  intro hsource
  obtain ⟨next, harrow⟩ := (exists_source_iff options index entry endNode).mp ⟨edge, h, hsource⟩
  exact Walk.endNode_not_mem_visited options hentry
    (Walk.source_mem_visited options hkeyed harrow)

end

end FlowAnalysis

/-- The dead ends of a diagram of any facts are the gaps in the facts: an edge leads out of every
activity but the ones without a processor. These are marked, and no edge leads out of the end. -/
theorem deadEnds_ofEntry (classes : List ClassFact) (processors : List ProcessorFact)
    (options : DrawingOptions) {entry : Name} (hentry : entry ≠ endNode) (name : Name) :
    let index := FactIndex.build classes processors
    let analysis := FlowAnalysis.ofEntry options index entry
    let graph := (analysis.flow name).graph options index
    graph.edgeStatements = analysis.edges.map (analysis.rendered options) ∧
      (∀ activity ∈ analysis.walk.visited,
        (∀ edge ∈ analysis.edges, edge.source ≠ activity) ↔ activity ∈ analysis.walk.missing) ∧
      (∀ activity ∈ analysis.walk.missing, analysis.MarksGap options index name activity) ∧
      ∀ edge ∈ analysis.edges, edge.source ≠ endNode := by
  intro index analysis graph
  have hkeyed : index.Keyed := FactIndex.keyed_build classes processors
  exact ⟨FlowAnalysis.edgeStatements_graph options index analysis name,
    fun activity hvisited => FlowAnalysis.isDeadEnd_iff hkeyed options hvisited,
    fun activity hmissing => FlowAnalysis.marksGap_ofEntry hkeyed options hentry name hmissing,
    fun edge hedge => FlowAnalysis.source_ne_endNode hkeyed options hentry hedge⟩

/-- A check may lead to a payment, whose processor is not known. -/
theorem deadEnds_ofEntry_unpaid :
    let index := FactIndex.build [] [Walk.checkProcessor, Walk.rejectProcessor]
    let analysis := FlowAnalysis.ofEntry .standard index Walk.checkProcessor.activity
    Walk.checkProcessor.activity ≠ endNode ∧
      Walk.payProcessor.activity ∈ analysis.walk.missing ∧
      analysis.MarksGap .standard index "Payment" Walk.payProcessor.activity ∧
      ∀ edge ∈ analysis.edges, edge.source ≠ Walk.payProcessor.activity := by
  intro index analysis
  have hentry : Walk.checkProcessor.activity ≠ endNode := by decide
  have hvisits := Walk.visits_along index .standard Walk.checkProcessor.activity
  have hcheck : Walk.checkProcessor.activity ∈ analysis.walk.visited :=
    hvisits.mem_of_mem List.mem_cons_self
  have hpay : Walk.payProcessor.activity ∈ analysis.walk.visited :=
    hvisits.mem_of_next hcheck List.not_mem_nil (by decide)
  have hmissing : Walk.payProcessor.activity ∈ analysis.walk.missing :=
    (Walk.mem_missing_along ..).mpr ⟨hpay, by decide⟩
  obtain ⟨-, hends, hmarks, -⟩ := deadEnds_ofEntry [] [Walk.checkProcessor, Walk.rejectProcessor]
    .standard hentry "Payment"
  exact ⟨hentry, hmissing, hmarks _ hmissing, (hends _ hpay).mpr hmissing⟩

end FlowDiagram
