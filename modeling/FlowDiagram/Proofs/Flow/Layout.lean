import FlowDiagram.Proofs.Flow.Completion
import FlowDiagram.Proofs.Graph.Reachability

/-!
# Layout constraints

A diagram is laid out in ranks: an edge puts its target below its source unless it is drawn without
a constraint. Exactly the edges between the ends of back edges are drawn so, however many there are
and whatever else their style would be. The other edges make no cycle, so there is always a ranking,
and it is the same whether parallel edges are consolidated or not.

## Main definitions

* `Dot.Graph.edgeStatements`: the edge statements of a graph.
* `Dot.EdgeStatement.isUnconstrained`: whether an edge takes no part in the layout.
* `FlowAnalysis.Draws`: some edge is drawn between two nodes, with or without a constraint.

`generateFlow_layout` is the main result.
-/

namespace FlowDiagram

open Relation

/-! ## Edge statements -/

namespace Dot

/-- The edge statement that a statement is, if it is one. -/
def Statement.edge? : Statement → Option EdgeStatement
  | .node _ => none
  | .edge statement => some statement
  | .subgraph _ => none

/-- The edge statements of a graph, in order. -/
def Graph.edgeStatements (graph : Graph) : List EdgeStatement :=
  graph.statements.filterMap Statement.edge?

/-- Whether an edge takes no part in the layout. -/
def EdgeStatement.isUnconstrained (statement : EdgeStatement) : Bool :=
  statement.attributes.contains (.plain "constraint" "false")

end Dot

/-- The statement of an edge in the drawing of a flow. -/
def FlowAnalysis.rendered (options : DrawingOptions) (analysis : FlowAnalysis) (edge : Edge) :
    Dot.EdgeStatement :=
  Flow.edgeStatement (StyledEdge.ofEdge options analysis.walk.missing edge)

/-- The edge statements in the graph of a flow are those of its edges. -/
theorem FlowAnalysis.edgeStatements_graph (options : DrawingOptions) (index : FactIndex)
    (analysis : FlowAnalysis) (name : Name) :
    ((analysis.flow name).graph options index).edgeStatements =
      analysis.edges.map (analysis.rendered options) := by
  have hlegend : (if options.showLegend then [Dot.Statement.subgraph Flow.legendBox]
      else []).filterMap Dot.Statement.edge? = [] := by
    split <;> rfl
  have hnone {α : Type} (items : List α) :
      items.filterMap (fun _ => (none : Option Dot.EdgeStatement)) = [] := by
    simp
  simp only [Dot.Graph.edgeStatements, Flow.graph, Flow.statements, List.filterMap_append,
    List.filterMap_map, hlegend, Function.comp_def, Dot.Statement.edge?, hnone, List.nil_append,
    List.append_nil, List.filterMap_eq_map']
  rfl

/-- A style lifts the constraint of back edges, whatever else they are, and of no other edge. -/
theorem contains_constraint_style (options : DrawingOptions) (missing : List Name) (edge : Edge) :
    ((EdgeStyle.ofEdge options missing edge).attributes.map fun (key, value) =>
      Dot.Attribute.plain key value).contains (.plain "constraint" "false") = edge.isBackEdge := by
  rw [EdgeStyle.ofEdge]
  cases edge.isBackEdge with
  | true =>
    rw [if_pos rfl]
    decide
  | false =>
    -- None of the other styles says anything about constraints.
    rw [if_neg Bool.false_ne_true]
    split
    · decide
    · split
      · decide
      · split <;> decide

/-- The style of an edge alone decides whether it takes part in the layout. -/
theorem FlowAnalysis.isUnconstrained_rendered (options : DrawingOptions) (analysis : FlowAnalysis)
    (edge : Edge) : (analysis.rendered options edge).isUnconstrained = edge.isBackEdge := by
  have hlabel : ∀ label : Text, (if label.isEmpty then []
      else [Dot.Attribute.plain "label" (Dot.escapeLabel label)]).contains
        (.plain "constraint" "false") = false := by
    intro label
    split <;> simp [Dot.Attribute.plain]
  rw [Dot.EdgeStatement.isUnconstrained, rendered, Flow.edgeStatement, List.contains_append, hlabel,
    Bool.false_or]
  exact contains_constraint_style options analysis.walk.missing edge

/-! ## Back edges among the drawn edges -/

/-- A drawn edge has its ends and its direction from an edge of the flow, where the back edges are
marked. -/
theorem exists_marked_of_mem_drawnEdges {options : DrawingOptions} {backEdges : List (Name × Name)}
    {edges : List Edge} {drawn : Edge} (h : drawn ∈ drawnEdges options backEdges edges) :
    ∃ edge ∈ markBackEdges backEdges edges, edge.key = drawn.key := by
  unfold drawnEdges at h
  split at h
  · exact (key_of_mem_consolidate _ _ _ _).mp ⟨drawn, h, rfl⟩
  · exact ⟨drawn, h, rfl⟩

/-- Of the drawn edges exactly those between the ends of back edges are marked. -/
theorem isBackEdge_iff_of_mem_drawnEdges {options : DrawingOptions}
    {backEdges : List (Name × Name)} {edges : List Edge}
    (hplain : ∀ edge ∈ edges, edge.isBackEdge = false) {drawn : Edge}
    (h : drawn ∈ drawnEdges options backEdges edges) :
    drawn.isBackEdge = true ↔ drawn.ends ∈ backEdges := by
  obtain ⟨edge, hedge, hkey⟩ := exists_marked_of_mem_drawnEdges h
  have hback : edge.isBackEdge = drawn.isBackEdge := congrArg EdgeKey.isBackEdge hkey
  rw [← hback, ← ends_of_key_eq hkey]
  exact isBackEdge_iff_of_mem_markBackEdges hplain hedge

namespace FlowAnalysis

/-- Some edge is drawn from a node to another, without a constraint or with one. -/
def Draws (options : DrawingOptions) (analysis : FlowAnalysis) (unconstrained : Bool)
    (source target : Name) : Prop :=
  ∃ edge ∈ analysis.edges, edge.ends = (source, target) ∧
    (analysis.rendered options edge).isUnconstrained = unconstrained

section

variable (options : DrawingOptions) (index : FactIndex) (entry : Name)

/-- An edge of a flow is drawn without a constraint if its ends are those of a back edge. -/
theorem isUnconstrained_iff {edge : Edge} (h : edge ∈ (ofEntry options index entry).edges) :
    ((ofEntry options index entry).rendered options edge).isUnconstrained = true ↔
      edge.ends ∈ (ofEntry options index entry).cycles.backEdges := by
  rw [isUnconstrained_rendered]
  refine isBackEdge_iff_of_mem_drawnEdges (fun raw hraw => ?_) h
  rw [(Walk.consistent_along index options entry).edges_eq] at hraw
  obtain ⟨activity, -, hraw⟩ := List.mem_flatMap.mp hraw
  exact isBackEdge_of_mem_outgoing hraw

/-- What is drawn, and how, depends on the walk and its back edges only. -/
theorem draws_iff (unconstrained : Bool) (source target : Name) :
    (ofEntry options index entry).Draws options unconstrained source target ↔
      Arrow (Walk.along index options entry).edges source target ∧
        decide ((source, target) ∈
          (CycleAnalysis.ofEdges entry (Walk.along index options entry).edges).backEdges) =
            unconstrained := by
  have hdrawn : Arrow (ofEntry options index entry).edges source target ↔
      Arrow (Walk.along index options entry).edges source target := by
    rw [edges_ofEntry, arrow_drawnEdges]
  constructor
  · rintro ⟨edge, hedge, hends, rfl⟩
    have hdraws : Arrow (ofEntry options index entry).edges source target := by
      rw [Arrow, ← hends]
      exact List.mem_map_of_mem hedge
    refine ⟨hdrawn.mp hdraws, ?_⟩
    rw [← hends, Bool.eq_iff_iff, decide_eq_true_iff]
    exact (isUnconstrained_iff options index entry hedge).symm
  · rintro ⟨harrow, rfl⟩
    obtain ⟨edge, hedge, hends⟩ := List.mem_map.mp (hdrawn.mpr harrow)
    refine ⟨edge, hedge, hends, ?_⟩
    rw [← hends, Bool.eq_iff_iff, decide_eq_true_iff]
    exact isUnconstrained_iff options index entry hedge

/-- Consolidation does not change the walk. -/
theorem along_deduplicate (deduplicate : Bool) :
    Walk.along index { options with deduplicate } entry = Walk.along index options entry := by
  -- No edge out of an activity knows whether it will be consolidated.
  have houtgoing : outgoing index { options with deduplicate } = outgoing index options := rfl
  exact Walk.along_congr (fun _ _ => rfl) fun activity _ => congrFun houtgoing activity

/-- The layout constraints make no cycle. -/
theorem acyclic_draws : Acyclic ((ofEntry options index entry).Draws options false) := by
  intro node hcycle
  refine Search.acyclic_run entry (Walk.along index options entry).edges node
    (TransGen.mono (fun source target h => ?_) node node hcycle)
  obtain ⟨harrow, hback⟩ := (draws_iff options index entry false source target).mp h
  exact ⟨harrow, of_decide_eq_false hback⟩

end

end FlowAnalysis

/-! ## Generating a flow -/

/-- A diagram that comes out of a flow is the text of the flow's graph. -/
theorem eq_text_of_dot {settings : FlowSettings} {index : FactIndex} {outages : Outages}
    {fact : ClassFact} {text : Text}
    (h : (generateFlow settings index outages fact).1.dot = some text) :
    text = (((FlowAnalysis.ofEntry settings.drawing index fact.entry).flow fact.name).graph
      settings.drawing index).text := by
  rw [generateFlow] at h
  dsimp only at h
  rw [drawFlow] at h
  split at h
  · simp [FlowResult.ofDrawing] at h
  · rw [Flow.draw] at h
    split at h
    · simp [FlowResult.ofDrawing, Except.mapError] at h
    · dsimp only at h
      split at h
      · exact (Option.some.inj h).symm
      · simp [FlowResult.ofDrawing, Except.mapError] at h

/-- The edges that are drawn for a flow have the ends of the edges of its walk. Those between the
ends of a back edge are drawn without a constraint, and no others are; what is left for the layout
makes no cycle. All this is the same with and without consolidation. -/
theorem generateFlow_layout (settings : FlowSettings) (index : FactIndex) (outages : Outages)
    (fact : ClassFact) :
    let options := settings.drawing
    let analysis := FlowAnalysis.ofEntry options index fact.entry
    let graph := (analysis.flow fact.name).graph options index
    (∀ text, (generateFlow settings index outages fact).1.dot = some text → text = graph.text) ∧
      graph.edgeStatements = analysis.edges.map (analysis.rendered options) ∧
      (∀ ends, ends ∈ analysis.edges.map Edge.ends ↔ ends ∈ analysis.walk.edges.map Edge.ends) ∧
      (∀ edge ∈ analysis.edges, (analysis.rendered options edge).isUnconstrained = true ↔
        edge.ends ∈ analysis.cycles.backEdges) ∧
      Acyclic (analysis.Draws options false) ∧
      ∀ deduplicate unconstrained source target,
        (FlowAnalysis.ofEntry { options with deduplicate } index fact.entry).Draws
            { options with deduplicate } unconstrained source target ↔
          analysis.Draws options unconstrained source target := by
  intro options analysis graph
  refine ⟨fun text htext => eq_text_of_dot htext,
    FlowAnalysis.edgeStatements_graph options index analysis fact.name,
    fun (source, target) => ?_,
    fun edge hedge => FlowAnalysis.isUnconstrained_iff options index fact.entry hedge,
    FlowAnalysis.acyclic_draws options index fact.entry,
    fun deduplicate unconstrained source target => ?_⟩
  · exact arrow_drawnEdges options analysis.cycles.backEdges analysis.walk.edges source target
  · rw [FlowAnalysis.draws_iff, FlowAnalysis.draws_iff, FlowAnalysis.along_deduplicate]

end FlowDiagram
