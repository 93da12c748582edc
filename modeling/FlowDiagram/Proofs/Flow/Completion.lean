import FlowDiagram.Flow.Generation
import FlowDiagram.Proofs.Diagram.Drawing
import FlowDiagram.Proofs.Diagram.Structure
import FlowDiagram.Proofs.Graph.Components
import FlowDiagram.Proofs.Graph.Consolidation
import FlowDiagram.Proofs.Graph.Iteration
import FlowDiagram.Proofs.Graph.Walk

/-!
# Every flow can be drawn

What is found out about a flow fits together: cycle clusters and iteration groups are parts of the
walk that share no activity, and consolidation keeps the arrows of the walk. As every label can be
quoted, too, drawing a flow never fails unless something strikes it from outside.

`FlowAnalysis.fits_ofEntry` and `generateFlow_completes` are the main results.
-/

namespace FlowDiagram

open Relation

/-! ## Clusters and groups -/

theorem CycleAnalysis.nodup_flatten_clusters (entry : Name) (edges : List Edge) :
    (ofEdges entry edges).clusters.flatten.Nodup := by
  refine List.nodup_flatten.mpr ⟨fun cluster hcluster => ?_, pairwise_disjoint_clusters entry edges⟩
  exact (Search.nodup_discovered_run entry edges).sublist (cluster_sublist hcluster)

/-- Every closure has a member, the first of which was discovered before the others. -/
theorem CycleAnalysis.closure_ne_nil {entry : Name} {edges : List Edge} {closure : List Name}
    (h : closure ∈ closures entry edges) : closure ≠ [] := by
  obtain ⟨a, -, hmem⟩ := exists_of_mem_closures entry edges h
  exact List.ne_nil_of_mem ((hmem a).mpr ⟨.refl, .refl⟩)

/-- The edges that are drawn make up the arrows of the flow. -/
theorem arrow_drawnEdges (options : DrawingOptions) (backEdges : List (Name × Name))
    (edges : List Edge) (v w : Name) :
    Arrow (drawnEdges options backEdges edges) v w ↔ Arrow edges v w := by
  unfold drawnEdges
  split
  · exact arrow_consolidate _ _ _ _ _
  · exact arrow_markBackEdges _ _ _ _

namespace FlowAnalysis

variable {index : FactIndex} (options : DrawingOptions) (entry name : Name)

theorem mem_nodes_of_mem_cluster (hkeyed : index.Keyed) {cluster : Cluster}
    (hcluster : cluster ∈ (ofEntry options index entry).cycles.clusters) :
    cluster ⊆ (ofEntry options index entry).walk.nodes := by
  intro v hv
  obtain ⟨w, harrow, -⟩ := TransGen.head'_iff.mp (CycleAnalysis.mem_cluster hcluster hv).1
  exact (Walk.nodes_of_arrow options entry hkeyed harrow).1

/-- The iteration groups of a flow, whether they are shown or not, take activities that arrows lead
to, and none that a cluster or another group has. -/
theorem exists_chains_groups (index : FactIndex) :
    ∃ taken, IterationGroup.Chains (ofEntry options index entry).walk.edges
      (ofEntry options index entry).cycles.clusters.flatten
      (taken, (ofEntry options index entry).groups) := by
  have hclusters :=
    CycleAnalysis.nodup_flatten_clusters entry (Walk.along index options entry).edges
  rw [walk_ofEntry, cycles_ofEntry, groups_ofEntry]
  split
  · exact IterationGroup.exists_chains_ofEdges _ hclusters
  · exact ⟨_, IterationGroup.Chains.start _ hclusters⟩

/-- What is found out about a flow fits together. -/
theorem fits_ofEntry (hkeyed : index.Keyed) :
    Fits (ofEntry options index entry).walk.nodes (ofEntry options index entry).cycles.clusters
      (ofEntry options index entry).groups (ofEntry options index entry).edges := by
  obtain ⟨taken, hchains⟩ := exists_chains_groups options entry index
  refine ⟨?_, ?_, ?_, ?_⟩
  · intro members hmembers
    rcases List.mem_append.mp hmembers with hcluster | hgroup
    · exact CycleAnalysis.cluster_ne_nil hcluster
    · obtain ⟨group, hmem, rfl⟩ := List.mem_map.mp hgroup
      exact List.ne_nil_of_length_pos (Nat.zero_lt_of_lt (hchains.long group hmem))
  · intro members hmembers
    rcases List.mem_append.mp hmembers with hcluster | hgroup
    · exact mem_nodes_of_mem_cluster options entry hkeyed hcluster
    · obtain ⟨group, hmem, rfl⟩ := List.mem_map.mp hgroup
      intro v hv
      obtain ⟨u, harrow⟩ := hchains.target group hmem v hv
      exact (Walk.nodes_of_arrow options entry hkeyed harrow).2
  · have hnodup := hchains.nodup
    rw [hchains.taken_eq] at hnodup
    rwa [memberLists, List.flatten_append, ← List.flatMap_def]
  · intro edge hedge
    have hdrawn : Arrow (ofEntry options index entry).edges edge.source edge.target :=
      arrow_iff.mpr ⟨edge, hedge, rfl, rfl⟩
    rw [edges_ofEntry] at hdrawn
    exact Walk.nodes_of_arrow options entry hkeyed ((arrow_drawnEdges _ _ _ _ _).mp hdrawn)

/-- All groups that were found are shown. -/
theorem shownGroups_flow (index : FactIndex) :
    ((ofEntry options index entry).flow name).shownGroups options =
      (ofEntry options index entry).groups := by
  rw [Flow.shownGroups, flow, groups_ofEntry]
  dsimp only
  split <;> rfl

/-- The check of a flow that was found passes. -/
theorem checkStructure_flow (hkeyed : index.Keyed) :
    checkStructure ((ofEntry options index entry).flow name).nodes
      ((ofEntry options index entry).flow name).clusters
      (((ofEntry options index entry).flow name).shownGroups options)
      ((ofEntry options index entry).flow name).edges = .ok () := by
  rw [checkStructure_eq_ok_iff, shownGroups_flow]
  exact fits_ofEntry options entry hkeyed

/-- The diagram of a flow is the text of its graph. -/
theorem draw_flow (hkeyed : index.Keyed) :
    ((ofEntry options index entry).flow name).draw options index =
      .ok (((ofEntry options index entry).flow name).graph options index).text := by
  rw [Flow.draw, checkStructure_flow options entry name hkeyed]
  dsimp only
  rw [if_pos (Flow.isWritable_graph _ _ _)]

end FlowAnalysis

/-! ## Generating a flow -/

/-- The result of a flow that nothing strikes from outside. -/
theorem generateFlow_eq {index : FactIndex} (hkeyed : index.Keyed) (settings : FlowSettings)
    (fact : ClassFact) :
    (generateFlow settings index [] fact).1 =
      .ofDrawing fact.name fact.entry (FlowAnalysis.ofEntry settings.drawing index fact.entry)
        (.ok (((FlowAnalysis.ofEntry settings.drawing index fact.entry).flow fact.name).graph
          settings.drawing index).text) := by
  rw [generateFlow]
  dsimp only
  rw [drawFlow, List.lookup_nil]
  dsimp only
  rw [FlowAnalysis.draw_flow _ _ _ hkeyed]
  rfl

/-- A flow of any facts is drawn: what was found out about it fits together, and nothing in its
diagram keeps it from being written. -/
theorem generateFlow_completes (settings : FlowSettings) (classes : List ClassFact)
    (processors : List ProcessorFact) (fact : ClassFact) :
    let index := FactIndex.build classes processors
    let analysis := FlowAnalysis.ofEntry settings.drawing index fact.entry
    let flow := analysis.flow fact.name
    let result := (generateFlow settings index [] fact).1
    (result.status = .completed ∧ (∃ dot, result.dot = some dot) ∧ result.error = none) ∧
      checkStructure flow.nodes flow.clusters (flow.shownGroups settings.drawing) flow.edges =
        .ok () ∧
      Fits flow.nodes flow.clusters flow.groups flow.edges ∧
      (∀ closure ∈ CycleAnalysis.closures fact.entry analysis.walk.edges, closure ≠ []) ∧
      (flow.graph settings.drawing index).isWritable = true := by
  intro index analysis flow result
  have hkeyed : index.Keyed := FactIndex.keyed_build classes processors
  refine ⟨?_, FlowAnalysis.checkStructure_flow _ _ _ hkeyed,
    FlowAnalysis.fits_ofEntry settings.drawing fact.entry hkeyed,
    fun closure h => CycleAnalysis.closure_ne_nil h, Flow.isWritable_graph _ _ _⟩
  have hresult : result = .ofDrawing fact.name fact.entry analysis
      (.ok (flow.graph settings.drawing index).text) := generateFlow_eq hkeyed settings fact
  rw [hresult]
  exact ⟨rfl, ⟨_, rfl⟩, rfl⟩

end FlowDiagram
