import FlowDiagram.Proofs.Flow.FanOut
import FlowDiagram.Proofs.Graph.Parallel

/-!
# Feature flags in a diagram

A transition that is guarded by a feature flag is drawn with the marker of this flag, whether
conditions are shown or not. Without consolidation this is so for every flagged transition. With it,
parallel edges that are put together show a flag only if all of them have it, and while conditions
are hidden the branch that is taken when no condition holds is left out beside others, with its
flag.

## Main definitions

* `Transition.flagName`: the flag that is shown for a flagged transition.
* `DrawingOptions.KeepsFlag`: a flag is not lost among parallel edges.

`flagShown_ofEntry` is the main result.
-/

namespace FlowDiagram

/-- The flag that is shown for a flagged transition. -/
def Transition.flagName (transition : Transition) : Text :=
  (transition.featureFlagName.filter (· ≠ [])).getD defaultFlag

theorem transitionFlag_of_flagged {transition : Transition}
    (h : transition.isFeatureFlagged = true) :
    transitionFlag transition = some transition.flagName :=
  if_pos h

/-- A flag of parallel edges is not lost: they are drawn as they are, or consolidation keeps it. -/
def DrawingOptions.KeepsFlag (options : DrawingOptions) (edges : List Edge) (flag : Text) : Prop :=
  options.deduplicate = true → Consolidation.KeepsFlag options.consolidation edges flag

/-! ## Labels -/

theorem flagMarker_ne_nil (flag : Text) : Edge.flagMarker flag ≠ [] := by
  simp [Edge.flagMarker, flagGlyph, Text.ofString, Text.ofChars]

/-- The marker of a flag stands in front of whatever else a label says. -/
theorem flagMarker_isPrefix_conditionLabel (options : DrawingOptions) {edge : Edge} {flag : Text}
    (h : edge.featureFlag = some flag) :
    Edge.flagMarker flag <+: conditionLabel options edge := by
  rw [conditionLabel, Edge.displayLabel, h]
  dsimp only
  split
  · split
    · exact List.prefix_refl _
    · rw [List.append_assoc]
      exact List.prefix_append _ _
  · exact List.prefix_refl _

theorem flagMarker_isPrefix_visibleLabel (options : DrawingOptions) {edge : Edge} {flag : Text}
    (h : edge.featureFlag = some flag) :
    Edge.flagMarker flag <+: visibleLabel options edge := by
  have hmarker := flagMarker_isPrefix_conditionLabel options h
  have hshown : (conditionLabel options edge).isEmpty = false :=
    List.isEmpty_eq_false_iff.mpr (hmarker.ne_nil (flagMarker_ne_nil flag))
  rw [visibleLabel, hshown]
  split
  · rw [if_neg Bool.false_ne_true, List.append_assoc, List.append_assoc]
    exact hmarker.trans (List.prefix_append _ _)
  · exact hmarker

/-! ## Drawn edges -/

section Drawn

variable {edges : List Edge} (hplain : ∀ edge ∈ edges, edge.isBackEdge = false)
  (options : DrawingOptions) (backEdges : List (Name × Name)) (source target : Name)

include hplain

/-- What is drawn between two nodes is settled by the edges between them and their direction. -/
theorem between_drawnEdges :
    let marked := (between edges source target).map
      (Edge.directed (decide ((source, target) ∈ backEdges)))
    between (drawnEdges options backEdges edges) source target =
      if options.deduplicate then
        Consolidation.block options.consolidation
          (Consolidation.counted options.showConditions marked)
      else marked := by
  intro marked
  have hmarked := between_markBackEdges hplain backEdges source target
  unfold drawnEdges
  split
  · rw [between_consolidate hplain, hmarked]
    rfl
  · exact hmarked

/-- Of the flags between two nodes those are drawn that are not lost. -/
theorem exists_featureFlag_drawnEdges_iff {flag : Text}
    (hflag : ∃ edge ∈ between edges source target, edge.featureFlag = some flag) :
    (∃ drawn ∈ between (drawnEdges options backEdges edges) source target,
        drawn.featureFlag = some flag) ↔
      options.KeepsFlag (between edges source target) flag := by
  rw [between_drawnEdges hplain, DrawingOptions.KeepsFlag]
  split
  · rename_i hdeduplicate
    rw [Consolidation.exists_featureFlag_block_iff, forall_prop_of_true hdeduplicate]
    exact Consolidation.keepsFlag_map_directed options.consolidation _ _ flag
  · rename_i hdeduplicate
    obtain ⟨edge, hedge, hflag⟩ := hflag
    exact iff_of_true ⟨_, List.mem_map_of_mem hedge, hflag⟩ fun h => absurd h hdeduplicate

end Drawn

/-! ## Flows -/

namespace FlowAnalysis

variable {index : FactIndex} (hkeyed : index.Keyed) (options : DrawingOptions) (entry : Name)

include hkeyed

theorem isBackEdge_of_mem_walk :
    ∀ edge ∈ (ofEntry options index entry).walk.edges, edge.isBackEdge = false := fun _ hedge =>
  isBackEdge_of_mem_outgoing ((Walk.mem_edges_along options entry hkeyed).mp hedge).2

/-- A flow that comes to an activity has the edges that its processor declares. -/
theorem between_walk {source : Name} {processor : ProcessorFact}
    (hvisited : source ∈ (ofEntry options index entry).walk.visited)
    (hprocessor : index.processor? source = some processor) (target : Name) :
    between (ofEntry options index entry).walk.edges source target =
      (edgesOf options processor).filter (·.target = target) := by
  have hbetween := Walk.between_along hkeyed options entry hvisited target
  rwa [outgoing_of_some hprocessor] at hbetween

end FlowAnalysis

/-- Let a flow come to an activity whose processor declares a flagged transition. Some edge is drawn
to the target that carries the flag exactly if the flag is not lost among the edges that the
processor declares to this target; the label of such an edge shows the marker of the flag. -/
theorem flagShown_ofEntry (classes : List ClassFact) (processors : List ProcessorFact)
    (options : DrawingOptions) (entry : Name) {source target : Name} {processor : ProcessorFact}
    {transition : Transition}
    (hvisited : source ∈
      (Walk.along (FactIndex.build classes processors) options entry).visited)
    (hprocessor : (FactIndex.build classes processors).processor? source = some processor)
    (htransition : transition ∈ processor.transitions)
    (hflagged : transition.isFeatureFlagged = true) (htarget : target ∈ transition.targets) :
    let analysis := FlowAnalysis.ofEntry options (FactIndex.build classes processors) entry
    let parallel := (edgesOf options processor).filter (·.target = target)
    let flag := transition.flagName
    ((∃ edge ∈ analysis.edges, edge.ends = (source, target) ∧ edge.featureFlag = some flag) ↔
        options.KeepsFlag parallel flag) ∧
      (options.KeepsFlag parallel flag →
        ∃ edge ∈ analysis.edges, edge.ends = (source, target) ∧
          Edge.flagMarker flag <:+: visibleLabel options edge ∧
          Dot.Attribute.plain "label" (Dot.escapeLabel (visibleLabel options edge)) ∈
            (analysis.rendered options edge).attributes) := by
  intro analysis parallel flag
  have hkeyed := FactIndex.keyed_build classes processors
  have hparallel : between analysis.walk.edges source target = parallel :=
    FlowAnalysis.between_walk hkeyed options entry hvisited hprocessor target
  have hdeclared : ∃ edge ∈ parallel, edge.featureFlag = some flag := by
    obtain ⟨edge, hedge, hstates⟩ :=
      exists_states options (mem_declarations.mpr ⟨htransition, htarget⟩)
    refine ⟨edge, List.mem_filter.mpr ⟨hedge, decide_eq_true hstates.target⟩, ?_⟩
    exact hstates.featureFlag.trans (transitionFlag_of_flagged hflagged)
  have hdrawn : (∃ edge ∈ analysis.edges,
      edge.ends = (source, target) ∧ edge.featureFlag = some flag) ↔
        options.KeepsFlag parallel flag := by
    rw [← hparallel] at hdeclared ⊢
    rw [← exists_featureFlag_drawnEdges_iff
      (FlowAnalysis.isBackEdge_of_mem_walk hkeyed options entry) options
      analysis.cycles.backEdges source target hdeclared]
    simp only [mem_between, and_assoc]
    rfl
  refine ⟨hdrawn, fun hkeeps => ?_⟩
  obtain ⟨edge, hedge, hends, hflag⟩ := hdrawn.mpr hkeeps
  have hmarker := flagMarker_isPrefix_visibleLabel options hflag
  exact ⟨edge, hedge, hends, hmarker.isInfix,
    FlowAnalysis.label_mem_rendered options analysis (hmarker.ne_nil (flagMarker_ne_nil flag))⟩

/-! ## Parallel transitions -/

/-- A payment that is guarded by a flag. -/
def instantPayment (flag : Option Text) : Transition where
  target := some "Pay"
  condition := none
  isFeatureFlagged := true
  featureFlagName := flag
  fanOutTargets := []
  single_xor_fanOut := rfl

theorem pay_ne_nil : Text.ofString "Pay" ≠ [] := by decide

/-- An order is paid, as a flag says or as usual. -/
def orderProcessor : ProcessorFact :=
  Walk.processorOf "Order" [instantPayment (some "INSTANT"), Walk.transitionTo "Pay" pay_ne_nil]
    (by decide)

/-- A walk visits the activity that it starts from. -/
theorem Walk.entry_mem_visited (index : FactIndex) (options : DrawingOptions) (entry : Name) :
    entry ∈ (along index options entry).visited :=
  (visits_along index options entry).mem_of_mem List.mem_cons_self

/-- Without consolidation the flag is shown. -/
theorem flagShown_ofEntry_order :
    let options := { DrawingOptions.standard with deduplicate := false }
    let index := FactIndex.build [] [orderProcessor]
    let analysis := FlowAnalysis.ofEntry options index orderProcessor.activity
    orderProcessor.activity ∈ analysis.walk.visited ∧
      index.processor? orderProcessor.activity = some orderProcessor ∧
      instantPayment (some "INSTANT") ∈ orderProcessor.transitions ∧
      (instantPayment (some "INSTANT")).isFeatureFlagged = true ∧
      Text.ofString "Pay" ∈ (instantPayment (some "INSTANT")).targets ∧
      ∃ edge ∈ analysis.edges, edge.ends = (orderProcessor.activity, Text.ofString "Pay") ∧
        Edge.flagMarker "INSTANT" <:+: visibleLabel options edge := by
  intro options index analysis
  have hvisited : orderProcessor.activity ∈ analysis.walk.visited :=
    Walk.entry_mem_visited index options orderProcessor.activity
  have hprocessor : index.processor? orderProcessor.activity = some orderProcessor := by decide
  have htransition : instantPayment (some "INSTANT") ∈ orderProcessor.transitions :=
    List.mem_cons_self
  have htarget : Text.ofString "Pay" ∈ (instantPayment (some "INSTANT")).targets := by decide
  obtain ⟨-, hshown⟩ := flagShown_ofEntry [] [orderProcessor] options orderProcessor.activity
    hvisited hprocessor htransition rfl htarget
  obtain ⟨edge, hedge, hends, hmarker, -⟩ := hshown fun h => absurd h Bool.false_ne_true
  exact ⟨hvisited, hprocessor, htransition, rfl, htarget, edge, hedge, hends, hmarker⟩

/-- With consolidation one edge is drawn for both transitions, and it shows no flag. -/
theorem not_flagShown_order :
    let options := DrawingOptions.standard
    let index := FactIndex.build [] [orderProcessor]
    let analysis := FlowAnalysis.ofEntry options index orderProcessor.activity
    orderProcessor.activity ∈ analysis.walk.visited ∧
      index.processor? orderProcessor.activity = some orderProcessor ∧
      instantPayment (some "INSTANT") ∈ orderProcessor.transitions ∧
      (instantPayment (some "INSTANT")).isFeatureFlagged = true ∧
      Text.ofString "Pay" ∈ (instantPayment (some "INSTANT")).targets ∧
      ∀ edge ∈ analysis.edges, edge.ends = (orderProcessor.activity, Text.ofString "Pay") →
        ¬ Edge.flagMarker "INSTANT" <:+: visibleLabel options edge := by
  intro options index analysis
  have hvisited : orderProcessor.activity ∈ analysis.walk.visited :=
    Walk.entry_mem_visited index options orderProcessor.activity
  have hprocessor : index.processor? orderProcessor.activity = some orderProcessor := by decide
  refine ⟨hvisited, hprocessor, List.mem_cons_self, rfl, by decide, fun edge hedge hends => ?_⟩
  have hkeyed := FactIndex.keyed_build [] [orderProcessor]
  have hpay : edge ∈ between analysis.edges orderProcessor.activity "Pay" :=
    mem_between.mpr ⟨hedge, hends⟩
  rw [show analysis.edges = drawnEdges options analysis.cycles.backEdges analysis.walk.edges from
      rfl, between_drawnEdges (FlowAnalysis.isBackEdge_of_mem_walk hkeyed options _),
    FlowAnalysis.between_walk hkeyed options _ hvisited hprocessor] at hpay
  -- The two transitions are put together whether the payment leads back or not.
  generalize decide ((orderProcessor.activity, (Text.ofString "Pay" : Name)) ∈
    analysis.cycles.backEdges) = isBackEdge at hpay
  clear hedge hends
  revert edge
  cases isBackEdge <;> decide

end FlowDiagram
