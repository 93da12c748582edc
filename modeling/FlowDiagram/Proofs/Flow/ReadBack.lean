import FlowDiagram.Proofs.Diagram.Outline
import FlowDiagram.Proofs.Flow.Completion

/-!
# Reading a diagram back

The text of a diagram says what its flow is. Read back, it shows the activities of the walk and the
edges that are drawn, with every activity in the subgraph of its cluster or its group, and the
numbers that come with the diagram count what it shows.

## Main definitions

* `FlowMetrics.Counts`: the numbers of a diagram count what its outline shows.

`generateFlow_readBack` is the main result.
-/

namespace FlowDiagram

/-- The numbers of a diagram count what an outline shows: the node statements without the one of the
legend, the edge statements, and the subgraphs by what their names start with. -/
structure FlowMetrics.Counts (metrics : FlowMetrics) (outline : Dot.Outline) : Prop where
  nodes : metrics.nodes = outline.nodes.countP (·.1 ≠ Legend.node)
  renderedEdges : metrics.renderedEdges = outline.edges.length
  cycleClusters :
    metrics.cycleClusters = outline.subgraphs.countP (·.any Flow.cycleStem.isPrefixOf)
  iterationGroups :
    metrics.iterationGroups = outline.subgraphs.countP (·.any Flow.iterationStem.isPrefixOf)

/-- The numbers of an analysis count what an outline of its flow shows. -/
theorem FlowAnalysis.counts_metrics {analysis : FlowAnalysis} {name : Name} {showLegend : Bool}
    {outline : Dot.Outline} (h : Flow.Depicts showLegend (analysis.flow name) outline)
    (hlegend : Legend.node ∉ analysis.walk.nodes) : analysis.metrics.Counts outline where
  nodes := congrArg Nat.cast (h.countP_nodes hlegend).symm
  renderedEdges := congrArg Nat.cast (by rw [h.edges, List.length_map]; rfl)
  cycleClusters := congrArg Nat.cast h.countP_cycles.symm
  iterationGroups := congrArg Nat.cast h.countP_iterations.symm

/-- The nodes of a walk that visits no reserved name are all different. -/
theorem Walk.nodup_nodes {walk : Walk} (hnodup : walk.visited.Nodup)
    (hend : endNode ∉ walk.visited) : walk.nodes.Nodup := by
  rw [nodes]
  split
  · rw [← List.concat_eq_append]
    exact hnodup.concat hend
  · exact hnodup

/-- Reading back the text of a generated diagram gives the flow of the class, unless some name is
reserved or would lose a line feed. -/
theorem generateFlow_readBack (settings : FlowSettings) (classes : List ClassFact)
    (processors : List ProcessorFact) (fact : ClassFact)
    (hname : Dot.losesNewline fact.name = false)
    (hvisited : ∀ name ∈ (Walk.along (FactIndex.build classes processors) settings.drawing
      fact.entry).visited,
        name ≠ endNode ∧ name ≠ Legend.node ∧ Dot.losesNewline name = false) :
    let index := FactIndex.build classes processors
    let analysis := FlowAnalysis.ofEntry settings.drawing index fact.entry
    let result := (generateFlow settings index [] fact).1
    ∃ text outline,
      result.dot = some text ∧ Dot.read text = some outline ∧
        Flow.Depicts settings.drawing.showLegend (analysis.flow fact.name) outline ∧
        result.metrics.Counts outline := by
  intro index analysis result
  have hkeyed : index.Keyed := FactIndex.keyed_build classes processors
  have hresult : result = .ofDrawing fact.name fact.entry analysis
      (.ok ((analysis.flow fact.name).graph settings.drawing index).text) :=
    generateFlow_eq hkeyed settings fact
  have hshown : (analysis.flow fact.name).shownGroups settings.drawing = analysis.groups :=
    FlowAnalysis.shownGroups_flow _ _ _ _
  have hfits : Fits (analysis.flow fact.name).nodes (analysis.flow fact.name).clusters
      ((analysis.flow fact.name).shownGroups settings.drawing) (analysis.flow fact.name).edges := by
    rw [hshown]
    exact FlowAnalysis.fits_ofEntry settings.drawing fact.entry hkeyed
  have hnodes : ∀ name ∈ analysis.walk.nodes,
      name ≠ Legend.node ∧ Dot.losesNewline name = false := by
    intro name hmem
    rcases Walk.mem_nodes hmem with hmem | rfl
    · exact (hvisited name hmem).2
    · decide
  have hlegend : Legend.node ∉ analysis.walk.nodes := fun hmem => (hnodes _ hmem).1 rfl
  have hnodup : analysis.walk.nodes.Nodup :=
    Walk.nodup_nodes (Walk.nodup_visited_along index settings.drawing fact.entry)
      fun hmem => (hvisited _ hmem).1 rfl
  have hlegible := Flow.legible_graph index hfits hname fun name hmem => (hnodes name hmem).2
  have hdepicts := Flow.depicts_outline index hfits hnodup hlegend hshown
  rw [hresult]
  exact ⟨_, _, rfl, Dot.read_text hlegible, hdepicts,
    FlowAnalysis.counts_metrics hdepicts hlegend⟩

/-! ## A flow with names that have to be quoted -/

/-- A transition to one activity, without a condition. -/
def plainTransition (target : Name) (h : target ≠ []) : Transition where
  target := some target
  condition := none
  isFeatureFlagged := false
  featureFlagName := none
  fanOutTargets := []
  single_xor_fanOut := by simp [isNamed, h]

/-- A class that starts with an activity in two lines. -/
def waitingClass : ClassFact where
  name := "Claim"
  sourceLocation := none
  supertypeNames := []
  initialActivity := some "Start\nclaim"
  name_ne_empty := by decide

/-- The processor of the first activity, which leads to the second one. -/
def startProcessor : ProcessorFact where
  activity := "Start\nclaim"
  processorName := "StartProcessor"
  transitions := [plainTransition "Wait for \"reply\"" (by decide)]
  createsManualTask := false
  completesFlow := false
  activity_ne_empty := by decide
  processorName_ne_empty := by decide

/-- The processor of the second activity, which waits for itself until the flow ends. -/
def waitProcessor : ProcessorFact where
  activity := "Wait for \"reply\""
  processorName := "WaitProcessor"
  transitions := [plainTransition "Wait for \"reply\"" (by decide)]
  createsManualTask := false
  completesFlow := true
  activity_ne_empty := by decide
  processorName_ne_empty := by decide

/-- The facts of a flow that waits. -/
def waitingIndex : FactIndex :=
  FactIndex.build [waitingClass] [startProcessor, waitProcessor]

theorem visited_waiting :
    (Walk.along waitingIndex DrawingOptions.standard waitingClass.entry).visited =
      [startProcessor.activity, waitProcessor.activity] := by
  have hstart : waitingIndex.processor? waitingClass.entry = some startProcessor := by decide
  have hwait : waitingIndex.processor? waitProcessor.activity = some waitProcessor := by decide
  have hafterStart : Walk.activitiesAfter (edgesOf DrawingOptions.standard startProcessor) ++ [] =
      [waitProcessor.activity] := by decide
  have hafterWait : Walk.activitiesAfter (edgesOf DrawingOptions.standard waitProcessor) ++ [] =
      [waitProcessor.activity] := by decide
  rw [Walk.along, Walk.continueFrom_of_some List.not_mem_nil hstart, hafterStart,
    Walk.continueFrom_of_some (by decide) hwait, hafterWait, Walk.continueFrom_of_mem (by decide),
    Walk.continueFrom_nil]
  rfl

theorem generateFlow_readBack_waiting :
    (∀ name ∈ (Walk.along waitingIndex DrawingOptions.standard waitingClass.entry).visited,
        name ≠ endNode ∧ name ≠ Legend.node ∧ Dot.losesNewline name = false) ∧
      ∃ text outline,
        (generateFlow {} waitingIndex [] waitingClass).1.dot = some text ∧
          Dot.read text = some outline ∧
          Flow.Depicts false ((FlowAnalysis.ofEntry DrawingOptions.standard waitingIndex
            waitingClass.entry).flow waitingClass.name) outline := by
  have hvisited : ∀ name ∈ (Walk.along waitingIndex DrawingOptions.standard
      waitingClass.entry).visited,
        name ≠ endNode ∧ name ≠ Legend.node ∧ Dot.losesNewline name = false := by
    rw [visited_waiting]
    decide
  obtain ⟨text, outline, htext, hread, hdepicts, -⟩ :=
    generateFlow_readBack {} [waitingClass] [startProcessor, waitProcessor] waitingClass (by decide)
      hvisited
  exact ⟨hvisited, text, outline, htext, hread, hdepicts⟩

end FlowDiagram
