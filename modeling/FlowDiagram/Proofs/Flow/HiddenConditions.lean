import FlowDiagram.Proofs.Diagram.Facts
import FlowDiagram.Proofs.Fact.Alike
import FlowDiagram.Proofs.Graph.BackEdges
import FlowDiagram.Proofs.Graph.Iteration
import FlowDiagram.Proofs.Graph.Walk
import FlowDiagram.Proofs.Graph.WithoutCondition

/-!
# Hidden conditions

A diagram that hides conditions says nothing about their wording. Two runs over facts that differ in
the wording of conditions only are compared: the walks are the same up to the conditions of their
edges, so are the edges to draw, and the graphs of both flows are equal. Which branch is taken when
no condition holds may still be seen, as its edges are left out beside others.

## Main definitions

* `FlowAnalysis.withoutConditions`: an analysis whose edges have lost their conditions.

`generateFlow_congr_of_hidden` is the main result.
-/

namespace FlowDiagram

variable {options : DrawingOptions}

/-! ## The walk -/

/-- The labels of alike transitions hide the same. -/
theorem hideCondition_transitionLabel {processor other : ProcessorFact}
    (h : processor.Alike options other) {a b : Transition} (hab : a.Alike options b) :
    hideCondition (transitionLabel options processor a) =
      hideCondition (transitionLabel options other b) := by
  rw [transitionLabel, transitionLabel, h.hasConditions_eq, hab.isFanOut_eq]
  match a.condition, b.condition, hab.condition with
  | _, _, .some hsame => exact hideCondition_congr hsame
  | _, _, .none => rfl

theorem transitionFlag_congr {a b : Transition} (h : a.Alike options b) :
    transitionFlag a = transitionFlag b := by
  rw [transitionFlag, transitionFlag, h.isFeatureFlagged, h.featureFlagName]

/-- The edges of alike transitions are the same without their conditions. -/
theorem transitionEdges_map_withoutCondition {processor other : ProcessorFact}
    (h : processor.Alike options other) {a b : Transition} (hab : a.Alike options b) :
    (transitionEdges options processor a).map Edge.withoutCondition =
      (transitionEdges options other b).map Edge.withoutCondition := by
  rw [transitionEdges, transitionEdges, List.map_map, List.map_map, hab.targets_eq]
  refine List.map_congr_left fun target _ => ?_
  simp only [Function.comp_apply, Edge.withoutCondition, if_pos, h.activity,
    hideCondition_transitionLabel h hab, transitionFlag_congr hab, hab.isFanOut_eq]

/-- The edges out of an activity are the same without their conditions. -/
theorem edgesOf_map_withoutCondition {processor other : ProcessorFact}
    (h : processor.Alike options other) :
    (edgesOf options processor).map Edge.withoutCondition =
      (edgesOf options other).map Edge.withoutCondition := by
  have htransitions :
      processor.transitions.map (fun transition =>
          (transitionEdges options processor transition).map Edge.withoutCondition) =
        other.transitions.map fun transition =>
          (transitionEdges options other transition).map Edge.withoutCondition :=
    h.map_transitions fun hab => transitionEdges_map_withoutCondition h hab
  rw [edgesOf, edgesOf, List.map_append, List.map_append, List.map_flatMap, List.map_flatMap,
    List.flatMap_def, List.flatMap_def, htransitions, h.signalsCompletion_eq, h.activity]

namespace FactIndex.Alike

variable {index other : FactIndex} (h : index.Alike options other)

include h

theorem outgoing_map_withoutCondition (activity : Name) :
    (outgoing index options activity).map Edge.withoutCondition =
      (outgoing other options activity).map Edge.withoutCondition := by
  have hfound := h.processor? activity
  rw [outgoing, outgoing]
  generalize index.processor? activity = found, other.processor? activity = found' at hfound ⊢
  cases hfound with
  | some halike => exact edgesOf_map_withoutCondition halike
  | none => rfl

/-- Walks over alike facts are the same without conditions. -/
theorem along_mapEdges (entry : Name) :
    (Walk.along index options entry).mapEdges Edge.withoutCondition =
      (Walk.along other options entry).mapEdges Edge.withoutCondition :=
  Walk.mapEdges_along Edge.target_withoutCondition (fun activity _ => h.isNone_processor? activity)
    fun activity _ => h.outgoing_map_withoutCondition activity

end FactIndex.Alike

/-! ## The analysis -/

namespace FlowAnalysis

/-- An analysis whose edges have lost their conditions. -/
def withoutConditions (analysis : FlowAnalysis) : FlowAnalysis :=
  { analysis with
    walk := analysis.walk.mapEdges Edge.withoutCondition
    edges := analysis.edges.map Edge.withoutCondition }

/-- Everything that is found out about a flow can be found out without conditions. -/
theorem withoutConditions_ofEntry (hhidden : options.showConditions = false) (index : FactIndex)
    (entry : Name) :
    let walk := (Walk.along index options entry).mapEdges Edge.withoutCondition
    let cycles := CycleAnalysis.ofEdges entry walk.edges
    (ofEntry options index entry).withoutConditions =
      { walk
        cycles
        groups :=
          if options.showIterations then IterationGroup.ofEdges walk.edges cycles.clusters else []
        edges := drawnEdges options cycles.backEdges walk.edges } := by
  intro walk cycles
  -- Cycles read the ends of edges, groups their fan-outs too: edges without conditions keep both.
  have hends : walk.edges.map Edge.ends =
      (Walk.along index options entry).edges.map Edge.ends :=
    List.map_map.trans (List.map_congr_left fun edge _ => edge.ends_withoutCondition)
  have hcycles : cycles = CycleAnalysis.ofEdges entry (Walk.along index options entry).edges :=
    CycleAnalysis.ofEdges_congr entry hends
  have hgroups : IterationGroup.ofEdges walk.edges cycles.clusters =
      IterationGroup.ofEdges (Walk.along index options entry).edges cycles.clusters :=
    IterationGroup.ofEdges_map Edge.ends_withoutCondition Edge.isFanOut_withoutCondition _ _
  have hedges : drawnEdges options cycles.backEdges walk.edges =
      (drawnEdges options cycles.backEdges (Walk.along index options entry).edges).map
        Edge.withoutCondition :=
    drawnEdges_map_withoutCondition hhidden _ _
  rw [hgroups, hedges, hcycles]
  rfl

/-- While conditions are hidden, the same is found out about alike facts. -/
theorem withoutConditions_congr (hhidden : options.showConditions = false)
    {index other : FactIndex} (h : index.Alike options other) (entry : Name) :
    (ofEntry options index entry).withoutConditions =
      (ofEntry options other entry).withoutConditions := by
  rw [withoutConditions_ofEntry hhidden, withoutConditions_ofEntry hhidden, h.along_mapEdges]

end FlowAnalysis

/-! ## The diagram -/

namespace FlowAnalysis

/-- The graph of a flow shows nothing of the conditions that are hidden. -/
theorem graph_withoutConditions (hhidden : options.showConditions = false) (analysis : FlowAnalysis)
    (name : Name) (index : FactIndex) :
    (analysis.withoutConditions.flow name).graph options index =
      (analysis.flow name).graph options index := by
  have hedges : (analysis.withoutConditions.flow name).edges.map (fun edge =>
        Dot.Statement.edge (Flow.edgeStatement (StyledEdge.ofEdge options
          (analysis.withoutConditions.flow name).walk.missing edge))) =
      (analysis.flow name).edges.map fun edge =>
        Dot.Statement.edge (Flow.edgeStatement (StyledEdge.ofEdge options
          (analysis.flow name).walk.missing edge)) := by
    simp only [flow, withoutConditions, Walk.mapEdges, List.map_map, Function.comp_def,
      StyledEdge.ofEdge_withoutCondition hhidden]
  simp only [Flow.graph, Flow.statements, hedges]
  rfl

section

variable (analysis : FlowAnalysis)

theorem length_edges_withoutConditions :
    analysis.withoutConditions.edges.length = analysis.edges.length :=
  List.length_map _

theorem length_rawEdges_withoutConditions :
    analysis.withoutConditions.walk.edges.length = analysis.walk.edges.length :=
  List.length_map _

theorem metrics_withoutConditions : analysis.withoutConditions.metrics = analysis.metrics := by
  rw [metrics, analysis.length_edges_withoutConditions, analysis.length_rawEdges_withoutConditions]
  rfl

theorem notes_withoutConditions :
    analysis.withoutConditions.notes options = analysis.notes options := by
  rw [notes, walkNote, analysis.length_edges_withoutConditions,
    analysis.length_rawEdges_withoutConditions]
  rfl

theorem drawnNotes_withoutConditions (name : Name) :
    (analysis.withoutConditions.flow name).drawnNotes = (analysis.flow name).drawnNotes := by
  have hedges : (analysis.withoutConditions.flow name).edges.length =
      (analysis.flow name).edges.length := analysis.length_edges_withoutConditions
  rw [Flow.drawnNotes, hedges]
  rfl

end

/-- Whether a flow can be drawn, and what comes of it, does not depend on hidden conditions. -/
theorem draw_withoutConditions (hhidden : options.showConditions = false) (analysis : FlowAnalysis)
    (name : Name) (index : FactIndex) :
    (analysis.withoutConditions.flow name).draw options index =
      (analysis.flow name).draw options index := by
  have hcheck : checkStructure (analysis.withoutConditions.flow name).nodes
        (analysis.withoutConditions.flow name).clusters
        ((analysis.withoutConditions.flow name).shownGroups options)
        (analysis.withoutConditions.flow name).edges =
      checkStructure (analysis.flow name).nodes (analysis.flow name).clusters
        ((analysis.flow name).shownGroups options) (analysis.flow name).edges :=
    checkStructure_map Edge.ends_withoutCondition _ _ _ _
  rw [Flow.draw, Flow.draw, hcheck, graph_withoutConditions hhidden]

end FlowAnalysis

/-! ## Generating a flow -/

namespace FlowAnalysis

/-- What comes of a class whose flow was analysed. -/
def outcome (settings : FlowSettings) (index : FactIndex) (outages : Outages) (fact : ClassFact)
    (analysis : FlowAnalysis) : FlowResult × List Event :=
  let flow := analysis.flow fact.name
  let drawing := drawFlow settings index outages flow
  let notes := analysis.notes settings.drawing ++
    if drawing.isOk then flow.drawnNotes else []
  (FlowResult.ofDrawing fact.name fact.entry analysis drawing,
    .span :: notes.map .note ++ Event.timer "flow_generation" ++
      endEvents fact.name analysis drawing)

theorem generateFlow_eq_outcome (settings : FlowSettings) (index : FactIndex) (outages : Outages)
    (fact : ClassFact) :
    generateFlow settings index outages fact =
      (ofEntry settings.drawing index fact.entry).outcome settings index outages fact :=
  rfl

variable {settings : FlowSettings}

/-- What comes of a class shows nothing of the conditions that are hidden. -/
theorem outcome_withoutConditions (hhidden : settings.drawing.showConditions = false)
    (index : FactIndex) (outages : Outages) (fact : ClassFact) (analysis : FlowAnalysis) :
    analysis.withoutConditions.outcome settings index outages fact =
      analysis.outcome settings index outages fact := by
  have hdrawing : drawFlow settings index outages (analysis.withoutConditions.flow fact.name) =
      drawFlow settings index outages (analysis.flow fact.name) := by
    rw [drawFlow, drawFlow, draw_withoutConditions hhidden]
    rfl
  have hresult : ∀ drawing,
      FlowResult.ofDrawing fact.name fact.entry analysis.withoutConditions drawing =
        FlowResult.ofDrawing fact.name fact.entry analysis drawing := by
    intro drawing
    cases drawing with
    | ok dot =>
      rw [FlowResult.ofDrawing, FlowResult.ofDrawing, metrics_withoutConditions]
      rfl
    | error failure => rfl
  have hevents : ∀ drawing, endEvents fact.name analysis.withoutConditions drawing =
      endEvents fact.name analysis drawing := by
    intro drawing
    cases drawing with
    | ok dot => rw [endEvents, endEvents, metrics_withoutConditions]
    | error failure => rfl
  simp only [outcome, hdrawing, hresult, hevents, notes_withoutConditions,
    drawnNotes_withoutConditions]

/-- The same analysis comes to the same over alike facts. -/
theorem outcome_congr {index other : FactIndex} (h : index.Alike settings.drawing other)
    (outages : Outages) (fact : ClassFact) (analysis : FlowAnalysis) :
    analysis.outcome settings index outages fact =
      analysis.outcome settings other outages fact := by
  have hdrawing : drawFlow settings index outages (analysis.flow fact.name) =
      drawFlow settings other outages (analysis.flow fact.name) := by
    rw [drawFlow, drawFlow, Flow.draw_congr h.class?_eq _ fun node _ => h.createsManualTask_eq node]
  rw [outcome, outcome, hdrawing]

end FlowAnalysis

open FlowAnalysis in
/-- While conditions are hidden, their wording does not matter: facts that differ in nothing else
come to the same result, with the same diagram, and the same is reported about them. -/
theorem generateFlow_congr_of_hidden (settings : FlowSettings) (classes : List ClassFact)
    (processors others : List ProcessorFact) (outages : Outages) (fact : ClassFact)
    (hhidden : settings.drawing.showConditions = false)
    (halike : List.Forall₂ (ProcessorFact.Alike settings.drawing) processors others) :
    generateFlow settings (FactIndex.build classes processors) outages fact =
      generateFlow settings (FactIndex.build classes others) outages fact := by
  let index := FactIndex.build classes processors
  let other := FactIndex.build classes others
  have hindex : index.Alike settings.drawing other := FactIndex.alike_build classes halike
  calc generateFlow settings index outages fact
      = (ofEntry settings.drawing index fact.entry).withoutConditions.outcome settings index
          outages fact := by rw [generateFlow_eq_outcome, outcome_withoutConditions hhidden]
    _ = (ofEntry settings.drawing other fact.entry).withoutConditions.outcome settings index
          outages fact := by rw [withoutConditions_congr hhidden hindex]
    _ = (ofEntry settings.drawing other fact.entry).withoutConditions.outcome settings other
          outages fact := outcome_congr hindex outages fact _
    _ = generateFlow settings other outages fact := by
        rw [generateFlow_eq_outcome, outcome_withoutConditions hhidden]

/-! ## A review under two conditions -/

/-- A class that starts with a review. -/
def reviewClass : ClassFact where
  name := "Appeal"
  sourceLocation := none
  supertypeNames := []
  initialActivity := some "Review"
  name_ne_empty := by decide

/-- The transition to a decision under a condition. -/
def decisionUnder (condition : Text) : Transition where
  target := some "Decide"
  condition := some condition
  isFeatureFlagged := false
  featureFlagName := none
  fanOutTargets := []
  single_xor_fanOut := by decide

/-- The processor of the review, which leads to one decision for two reasons. -/
def reviewProcessor (reason fallback : Text) : ProcessorFact where
  activity := "Review"
  processorName := "ReviewProcessor"
  transitions := [decisionUnder reason, decisionUnder fallback]
  createsManualTask := false
  completesFlow := false
  activity_ne_empty := by decide
  processorName_ne_empty := by decide

theorem alike_reviewProcessor {reason fallback reason' fallback' : Text}
    (hreason : SameBranch options reason reason')
    (hfallback : SameBranch options fallback fallback') :
    (reviewProcessor reason fallback).Alike options (reviewProcessor reason' fallback') where
  activity := rfl
  processorName := rfl
  transitions :=
    .cons ⟨rfl, .some hreason, rfl, rfl, rfl⟩ (.cons ⟨rfl, .some hfallback, rfl, rfl, rfl⟩ .nil)
  createsManualTask := rfl
  completesFlow := rfl

/-- The reasons are shown in different words, and both fallbacks are shown as the other branch. -/
theorem generateFlow_congr_of_hidden_review :
    let options := DrawingOptions.standard
    let processors := [reviewProcessor "behandling.amount > 100" "else"]
    let others := [reviewProcessor "krav.age < 18" "behandling.else "]
    options.showConditions = false ∧
      List.Forall₂ (ProcessorFact.Alike options) processors others ∧
      formatCondition options "behandling.amount > 100" ≠ formatCondition options "krav.age < 18" ∧
      generateFlow {} (FactIndex.build [reviewClass] processors) [] reviewClass =
        generateFlow {} (FactIndex.build [reviewClass] others) [] reviewClass := by
  intro options processors others
  have halike : List.Forall₂ (ProcessorFact.Alike options) processors others :=
    .cons (alike_reviewProcessor (by decide) (by decide)) .nil
  exact ⟨rfl, halike, by decide,
    generateFlow_congr_of_hidden {} [reviewClass] processors others [] reviewClass rfl halike⟩

end FlowDiagram
