import FlowDiagram.Proofs.Fact.Winners
import FlowDiagram.Proofs.Flow.Layout
import FlowDiagram.Proofs.Graph.FanOut
import FlowDiagram.Proofs.Graph.VisitOrder

/-!
# Fan-outs in a diagram

What a processor starts at once can be seen in the diagram of every flow that comes to its activity:
a fan-out is drawn from there to another activity exactly if the processor declares one, with or
without consolidation, and it says that it is one unless it leads back.

A fan-out whose condition reads like the branch that is taken when no condition holds would be taken
for this branch, which consolidation leaves out beside other edges.

## Main definitions

* `ProcessorFact.StartsAtOnce`: a processor declares a fan-out to an activity.
* `FactIndex.FanOutsNamed`: no fan-out has a condition that reads like this branch.

`fansOut_ofEntry` is the main result.
-/

namespace FlowDiagram

/-! ## Declarations -/

/-- A processor declares a fan-out to an activity. -/
def ProcessorFact.StartsAtOnce (processor : ProcessorFact) (target : Name) : Prop :=
  ∃ transition ∈ processor.transitions, transition.isFanOut = true ∧ target ∈ transition.targets

/-- No fan-out of a processor has a condition that reads like the branch that is taken when no
condition holds. -/
def ProcessorFact.FanOutsNamed (options : DrawingOptions) (processor : ProcessorFact) : Prop :=
  ∀ transition ∈ processor.transitions, transition.isFanOut = true →
    ∀ condition ∈ transition.condition, formatCondition options condition ≠ elseLabel

instance (options : DrawingOptions) (processor : ProcessorFact) :
    Decidable (processor.FanOutsNamed options) :=
  inferInstanceAs (Decidable (∀ transition ∈ processor.transitions, _))

/-- No fan-out of any processor reads like the branch that is taken when no condition holds. -/
def FactIndex.FanOutsNamed (options : DrawingOptions) (index : FactIndex) : Prop :=
  ∀ activity processor, index.processor? activity = some processor →
    processor.FanOutsNamed options

section

variable {options : DrawingOptions} {processor : ProcessorFact}

/-- The fan-outs among the edges out of an activity are those that its processor declares. -/
theorem exists_isFanOut_edgesOf_iff (options : DrawingOptions) {target : Name} :
    (∃ edge ∈ edgesOf options processor, edge.target = target ∧ edge.isFanOut = true) ↔
      processor.StartsAtOnce target := by
  constructor
  · rintro ⟨edge, hedge, rfl, hfan⟩
    rcases states_or_end hedge with ⟨⟨transition, target⟩, hdeclared, hstates⟩ | rfl
    · obtain ⟨htransition, htarget⟩ := mem_declarations.mp hdeclared
      rw [hstates.isFanOut] at hfan
      rw [hstates.target]
      exact ⟨transition, htransition, hfan, htarget⟩
    · exact absurd hfan Bool.false_ne_true
  · rintro ⟨transition, htransition, hfan, htarget⟩
    obtain ⟨edge, hedge, hstates⟩ :=
      exists_states options (mem_declarations.mpr ⟨htransition, htarget⟩)
    exact ⟨edge, hedge, hstates.target, hstates.isFanOut.trans hfan⟩

/-- Without a condition a fan-out has no label: only a single target is the other branch. -/
theorem transitionLabel_ne_else (hnamed : processor.FanOutsNamed options) {transition : Transition}
    (h : transition ∈ processor.transitions) (hfan : transition.isFanOut = true) :
    transitionLabel options processor transition ≠ elseLabel := by
  rw [transitionLabel]
  split
  · rename_i condition hcondition
    exact hnamed transition h hfan condition hcondition
  · rw [hfan, Bool.not_true, Bool.and_false]
    decide

theorem fanOutsNamed_edgesOf (hnamed : processor.FanOutsNamed options) :
    FanOutsNamed (edgesOf options processor) := by
  intro edge hedge hfan
  rcases states_or_end hedge with ⟨⟨transition, target⟩, hdeclared, hstates⟩ | rfl
  · obtain ⟨htransition, -⟩ := mem_declarations.mp hdeclared
    rw [hstates.isFanOut] at hfan
    rw [hstates.label]
    exact transitionLabel_ne_else hnamed htransition hfan
  · exact absurd hfan Bool.false_ne_true

end

/-! ## Walks -/

namespace Walk

variable {index : FactIndex} (hkeyed : index.Keyed) {options : DrawingOptions} (entry : Name)

include hkeyed

/-- A walk meets the fan-outs that the processors of the visited activities declare. -/
theorem fansOut_along {source target : Name} :
    FansOut (along index options entry).edges source target ↔
      source ∈ (along index options entry).visited ∧
        ∃ processor, index.processor? source = some processor ∧ processor.StartsAtOnce target := by
  constructor
  · rintro ⟨edge, hedge, hends, hfan⟩
    obtain ⟨rfl, rfl⟩ := Prod.mk.inj hends
    obtain ⟨hvisited, hout⟩ := (mem_edges_along options entry hkeyed).mp hedge
    obtain ⟨processor, hprocessor, hout⟩ := mem_outgoing_iff.mp hout
    refine ⟨hvisited, processor, hprocessor, ?_⟩
    exact (exists_isFanOut_edgesOf_iff options).mp ⟨edge, hout, rfl, hfan⟩
  · rintro ⟨hvisited, processor, hprocessor, hstarts⟩
    obtain ⟨edge, hedge, rfl, hfan⟩ := (exists_isFanOut_edgesOf_iff options).mpr hstarts
    have hout : edge ∈ outgoing index options source :=
      mem_outgoing_iff.mpr ⟨processor, hprocessor, hedge⟩
    obtain rfl := source_of_mem_outgoing hkeyed hout
    exact ⟨edge, (mem_edges_along options entry hkeyed).mpr ⟨hvisited, hout⟩, rfl, hfan⟩

theorem fanOutsNamed_along (hnamed : index.FanOutsNamed options) :
    FanOutsNamed (along index options entry).edges := by
  intro edge hedge
  obtain ⟨-, hout⟩ := (mem_edges_along options entry hkeyed).mp hedge
  obtain ⟨processor, hprocessor, hout⟩ := mem_outgoing_iff.mp hout
  exact fanOutsNamed_edgesOf (hnamed edge.source processor hprocessor) edge hout

end Walk

/-! ## Drawn edges -/

/-- Whether edges are consolidated or not, the fan-outs among them are drawn. -/
theorem fansOut_drawnEdges {edges : List Edge} (hnamed : FanOutsNamed edges)
    (options : DrawingOptions) (backEdges : List (Name × Name)) (source target : Name) :
    FansOut (drawnEdges options backEdges edges) source target ↔ FansOut edges source target := by
  unfold drawnEdges
  split
  · exact fansOut_consolidate hnamed _ _ _ _
  · exact fansOut_markBackEdges _ _ _ _

/-- The mark of a fan-out behind its label. -/
def fanOutSuffix : Text :=
  "(" ++ fanOutLabel ++ ")"

/-- A fan-out that does not lead back says that it is one. -/
theorem visibleLabel_of_isFanOut (options : DrawingOptions) {edge : Edge}
    (hfan : edge.isFanOut = true) (hback : edge.isBackEdge = false) :
    visibleLabel options edge = fanOutLabel ∨ fanOutSuffix <:+ visibleLabel options edge := by
  rw [visibleLabel, hfan, hback, Bool.not_false, Bool.and_self, if_pos rfl]
  split
  · exact Or.inl rfl
  · have hspace : Text.ofString " (" = Text.ofString " " ++ Text.ofString "(" := rfl
    refine Or.inr ⟨conditionLabel options edge ++ " ", ?_⟩
    simp only [fanOutSuffix, hspace, List.append_assoc]

/-- A label that is shown is an attribute of the edge. -/
theorem FlowAnalysis.label_mem_rendered (options : DrawingOptions) (analysis : FlowAnalysis)
    {edge : Edge} (h : visibleLabel options edge ≠ []) :
    Dot.Attribute.plain "label" (Dot.escapeLabel (visibleLabel options edge)) ∈
      (analysis.rendered options edge).attributes := by
  have hshown : (visibleLabel options edge).isEmpty = false := List.isEmpty_eq_false_iff.mpr h
  refine List.mem_append_left _ ?_
  change _ ∈ if (visibleLabel options edge).isEmpty then [] else _
  rw [hshown, if_neg Bool.false_ne_true]
  exact List.mem_singleton_self _

/-- The diagram of a flow of any facts shows a fan-out from an activity to another exactly if the
flow comes to the activity and its processor declares one, provided that no fan-out reads like the
branch that is taken when no condition holds. Unless it leads back, its label says what it is. -/
theorem fansOut_ofEntry (classes : List ClassFact) (processors : List ProcessorFact)
    (options : DrawingOptions) (entry : Name)
    (hnamed : (FactIndex.build classes processors).FanOutsNamed options) :
    let index := FactIndex.build classes processors
    let analysis := FlowAnalysis.ofEntry options index entry
    (∀ source target, FansOut analysis.edges source target ↔
        source ∈ analysis.walk.visited ∧
          ∃ processor, index.processor? source = some processor ∧
            processor.StartsAtOnce target) ∧
      ∀ edge ∈ analysis.edges, edge.isFanOut = true → edge.isBackEdge = false →
        (visibleLabel options edge = fanOutLabel ∨ fanOutSuffix <:+ visibleLabel options edge) ∧
          Dot.Attribute.plain "label" (Dot.escapeLabel (visibleLabel options edge)) ∈
            (analysis.rendered options edge).attributes := by
  intro index analysis
  have hkeyed : index.Keyed := FactIndex.keyed_build classes processors
  refine ⟨fun source target => ?_, fun edge hedge hfan hback => ?_⟩
  · have hwalk := Walk.fanOutsNamed_along hkeyed entry hnamed
    exact (fansOut_drawnEdges hwalk options _ source target).trans (Walk.fansOut_along hkeyed entry)
  · have hlabel := visibleLabel_of_isFanOut options hfan hback
    refine ⟨hlabel, FlowAnalysis.label_mem_rendered options analysis fun hnil => ?_⟩
    rw [hnil] at hlabel
    revert hlabel
    decide

/-! ## A fan-out beside another transition -/

/-- Two activities that start at once when a claim is settled. -/
def settlement : Transition where
  target := none
  condition := some "behandling.settled"
  isFeatureFlagged := false
  featureFlagName := none
  fanOutTargets := ["Notify", "Archive"]
  single_xor_fanOut := rfl

/-- A settled claim is archived and somebody is notified; otherwise somebody is only notified. -/
def settlingProcessor : ProcessorFact :=
  Walk.processorOf "Settle" [settlement, Walk.transitionTo "Notify" (by decide)] (by decide)

theorem eq_settlingProcessor {activity : Name} {processor : ProcessorFact}
    (h : (FactIndex.build [] [settlingProcessor]).processor? activity = some processor) :
    processor = settlingProcessor := by
  rw [FactIndex.processor?_build] at h
  exact List.mem_singleton.mp (List.mem_of_mem_filter (List.mem_of_getLast? h))

/-- The fan-out is drawn although a branch without a condition leads to the same activity. -/
theorem fansOut_ofEntry_settle :
    let index := FactIndex.build [] [settlingProcessor]
    index.FanOutsNamed .standard ∧
      FansOut (FlowAnalysis.ofEntry .standard index settlingProcessor.activity).edges
        settlingProcessor.activity "Notify" := by
  intro index
  have hnamed : index.FanOutsNamed .standard := by
    intro activity processor hprocessor
    rw [eq_settlingProcessor hprocessor]
    decide
  have hvisited : settlingProcessor.activity ∈
      (Walk.along index .standard settlingProcessor.activity).visited :=
    (Walk.visits_along index .standard settlingProcessor.activity).mem_of_mem List.mem_cons_self
  have hstarts : settlingProcessor.StartsAtOnce "Notify" :=
    ⟨settlement, List.mem_cons_self, by decide, by decide⟩
  obtain ⟨hfans, -⟩ := fansOut_ofEntry [] [settlingProcessor] .standard settlingProcessor.activity
    hnamed
  exact ⟨hnamed, (hfans _ _).mpr ⟨hvisited, settlingProcessor, by decide, hstarts⟩⟩

end FlowDiagram
