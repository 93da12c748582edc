import FlowDiagram.Proofs.Diagram.Drawing
import FlowDiagram.Proofs.Diagram.Structure

/-!
# What a drawing shows

A drawing of groups and edges that fit a flow can be read back: every node has one statement, which
stands in the subgraph of its group if it has one, every edge has one, and every group has a
subgraph of its own.

## Main definitions

* `Flow.subgraphName`: the name of the subgraph that shows a group.
* `Flow.Depicts`: what the outline of a flow's drawing has to satisfy.

`Flow.legible_graph` says that a drawing can be read, and `Flow.depicts_outline` that it shows what
it should.
-/

namespace FlowDiagram

/-! ## Numbers in texts -/

theorem Text.ofString_append (a b : String) : ofString (a ++ b) = ofString a ++ ofString b := by
  rw [ofString, String.toList_append, ofChars, List.map_append]
  rfl

theorem Text.ofNat_eq (number : Nat) : ofNat number = ofChars (Nat.toDigits 10 number) := by
  rw [ofNat, ofString, Nat.toString_eq_ofList_toDigits, String.toList_ofList]

/-- Different numbers are written differently. -/
theorem Text.ofNat_injective : Function.Injective ofNat := by
  intro i j h
  rw [ofNat_eq, ofNat_eq] at h
  have hchars := congrArg chars? h
  rw [chars?_ofChars, chars?_ofChars, Option.some.injEq] at hchars
  simpa using congrArg (Nat.ofDigitChars 10 · 0) hchars

theorem Text.newline_not_mem_ofNat (number : Nat) : .char '\n' ∉ ofNat number := by
  rw [ofNat_eq, ofChars, List.mem_map]
  rintro ⟨c, hc, hline⟩
  obtain rfl : c = '\n' := CodePoint.char.inj hline
  exact absurd (Nat.isDigit_of_mem_toDigits (by decide) (by decide) hc) (by decide)

namespace Flow

open Dot

/-! ## Names of subgraphs -/

/-- What the name of the subgraph of a cycle cluster starts with. -/
def cycleStem : Text := "cluster_cycle_"

/-- What the name of the subgraph of an iteration group starts with. -/
def iterationStem : Text := "cluster_iteration_"

/-- The name of the subgraph that shows a group. -/
def subgraphName : GroupName → Text
  | .cycle number => cycleStem ++ Text.ofNat number
  | .iteration number => iterationStem ++ Text.ofNat number

theorem name_iterationBox (context : StyleContext) (group : IterationGroup) (number : Nat) :
    (iterationBox context group number).name = some (subgraphName (.iteration number)) := by
  rw [subgraphName, iterationStem, Text.ofNat, ← Text.ofString_append]
  rfl

theorem name_cycleBox (context : StyleContext) (cluster : Cluster) (number : Nat) :
    (cycleBox context cluster number).name = some (subgraphName (.cycle number)) := by
  rw [subgraphName, cycleStem, Text.ofNat, ← Text.ofString_append]
  rfl

theorem isPrefixOf_subgraphName (number : Nat) :
    cycleStem.isPrefixOf (subgraphName (.cycle number)) = true ∧
      cycleStem.isPrefixOf (subgraphName (.iteration number)) = false ∧
      iterationStem.isPrefixOf (subgraphName (.cycle number)) = false ∧
      iterationStem.isPrefixOf (subgraphName (.iteration number)) = true :=
  ⟨by simp [subgraphName], rfl, rfl, by simp [subgraphName]⟩

theorem subgraphName_injective : Function.Injective subgraphName := by
  have hdiffer : ∀ i j, subgraphName (.cycle i) ≠ subgraphName (.iteration j) := by
    intro i j h
    have hcycle := (isPrefixOf_subgraphName i).1
    rw [h, (isPrefixOf_subgraphName j).2.1] at hcycle
    exact nomatch hcycle
  intro a b h
  cases a with
  | cycle i =>
    cases b with
    | cycle j => exact congrArg _ (Text.ofNat_injective (List.append_cancel_left h))
    | iteration j => exact absurd h (hdiffer i j)
  | iteration i =>
    cases b with
    | cycle j => exact absurd h.symm (hdiffer j i)
    | iteration j => exact congrArg _ (Text.ofNat_injective (List.append_cancel_left h))

theorem losesNewline_subgraphName (group : GroupName) :
    losesNewline (subgraphName group) = false := by
  have hline : .char '\n' ∉ subgraphName group := by
    cases group with
    | cycle number =>
      exact List.not_mem_append (by decide) (Text.newline_not_mem_ofNat number)
    | iteration number =>
      exact List.not_mem_append (by decide) (Text.newline_not_mem_ofNat number)
  rw [losesNewline, decide_eq_false (fun hlast => hline (List.mem_of_getLast? hlast)),
    Bool.false_and]

/-! ## Names in a drawing -/

theorem map_name_nodeStatement (context : StyleContext) (members : List Name) :
    (members.map (nodeStatement context)).map NodeStatement.name = members := by
  rw [List.map_map]
  exact List.map_id members

theorem names_iterationBox (context : StyleContext) (group : IterationGroup) (number : Nat) :
    (Statement.subgraph (iterationBox context group number)).names =
      subgraphName (.iteration number) :: group.members := by
  rw [Statement.names, name_iterationBox, iterationBox, map_name_nodeStatement]
  rfl

theorem names_cycleBox (context : StyleContext) (cluster : Cluster) (number : Nat) :
    (Statement.subgraph (cycleBox context cluster number)).names =
      subgraphName (.cycle number) :: cluster := by
  rw [Statement.names, name_cycleBox, cycleBox, map_name_nodeStatement]
  rfl

variable {options : DrawingOptions} {flow : Flow}

theorem subset_nodes_of_mem_clusters
    (hfits : Fits flow.nodes flow.clusters (flow.shownGroups options) flow.edges)
    {cluster : Cluster} (h : cluster ∈ flow.clusters) : cluster ⊆ flow.nodes :=
  hfits.known cluster (List.mem_append_left _ h)

theorem subset_nodes_of_mem_shownGroups
    (hfits : Fits flow.nodes flow.clusters (flow.shownGroups options) flow.edges)
    {group : IterationGroup} (h : group ∈ flow.shownGroups options) :
    group.members ⊆ flow.nodes :=
  hfits.known group.members (List.mem_append_right _ (List.mem_map_of_mem h))

/-- Every statement of a drawing can be read if the names of the nodes can. -/
theorem legible_statements (index : FactIndex)
    (hfits : Fits flow.nodes flow.clusters (flow.shownGroups options) flow.edges)
    (hnodes : ∀ name ∈ flow.nodes, losesNewline name = false) :
    ∀ s ∈ flow.statements options index, s.Legible := by
  intro s hs
  refine ⟨?_, isLegible_statements options index flow s hs⟩
  simp only [statements, List.mem_append, List.mem_map] at hs
  rcases hs with (((⟨⟨group, number⟩, hgroup, rfl⟩ | ⟨⟨cluster, number⟩, hcluster, rfl⟩) |
    ⟨name, hname, rfl⟩) | ⟨edge, hedge, rfl⟩) | hs
  · have hmem := List.fst_mem_of_mem_zipIdx hgroup
    rw [names_iterationBox, List.forall_mem_cons]
    exact ⟨losesNewline_subgraphName _,
      fun v hv => hnodes v (subset_nodes_of_mem_shownGroups hfits hmem hv)⟩
  · have hmem := List.fst_mem_of_mem_zipIdx hcluster
    rw [names_cycleBox, List.forall_mem_cons]
    exact ⟨losesNewline_subgraphName _,
      fun v hv => hnodes v (subset_nodes_of_mem_clusters hfits hmem hv)⟩
  · rw [Statement.names, List.forall_mem_singleton]
    exact hnodes name (List.mem_of_mem_filter hname)
  · obtain ⟨hsource, htarget⟩ := hfits.ends edge hedge
    rw [Statement.names, List.forall_mem_cons, List.forall_mem_singleton]
    exact ⟨hnodes _ hsource, hnodes _ htarget⟩
  · split at hs
    · rw [List.mem_singleton.mp hs]
      decide
    · exact absurd hs List.not_mem_nil

/-- A drawing can be read if the names in it can. -/
theorem legible_graph (index : FactIndex)
    (hfits : Fits flow.nodes flow.clusters (flow.shownGroups options) flow.edges)
    (hname : losesNewline flow.name = false)
    (hnodes : ∀ name ∈ flow.nodes, losesNewline name = false) :
    (flow.graph options index).Legible where
  name := hname
  attributes_ne := List.cons_ne_nil _ _
  nodeDefaults_ne := List.cons_ne_nil _ _
  edgeDefaults_ne := List.cons_ne_nil _ _
  attributes := isLegible_graph options index flow
  nodeDefaults := by
    simp only [graph]
    decide
  edgeDefaults := by
    simp only [graph]
    decide
  statements := legible_statements index hfits hnodes

/-! ## The outline of a drawing -/

/-- The groups that are drawn with their members, in the order of their subgraphs. -/
def boxes (options : DrawingOptions) (flow : Flow) : List (GroupName × List Name) :=
  (flow.shownGroups options).zipIdx.map
      (fun (group, number) => (.iteration number, group.members)) ++
    flow.clusters.zipIdx.map fun (cluster, number) => (.cycle number, cluster)

/-- The node statements of a group, each inside the subgraph of the group. -/
def boxedNodes (box : GroupName × List Name) : List (Name × List (Option Text)) :=
  box.2.map fun name => (name, [some (subgraphName box.1)])

/-- The node of the legend, if it is shown. -/
def legendNodes (showLegend : Bool) : List Name :=
  if showLegend then [Legend.node] else []

/-- The subgraph of the legend, if it is shown. -/
def legendSubgraphs (showLegend : Bool) : List (Option Text) :=
  if showLegend then [none] else []

/-- The node statements of a drawing, each with the subgraphs around it. -/
def drawnNodes (options : DrawingOptions) (flow : Flow) : List (Name × List (Option Text)) :=
  (flow.boxes options).flatMap boxedNodes ++ (flow.unplaced options).map (·, []) ++
    (legendNodes options.showLegend).map (·, [none])

theorem mem_boxes_cycle {number : Nat} {members : List Name} :
    (.cycle number, members) ∈ flow.boxes options ↔ flow.clusters[number]? = some members := by
  simp only [boxes, List.mem_append, List.mem_map, Prod.exists, Prod.mk.injEq, reduceCtorEq,
    false_and, and_false, exists_false, false_or, GroupName.cycle.injEq,
    List.mem_zipIdx_iff_getElem?]
  constructor
  · rintro ⟨cluster, n, h, rfl, rfl⟩
    exact h
  · intro h
    exact ⟨members, number, h, rfl, rfl⟩

theorem mem_boxes_iteration {number : Nat} {members : List Name} :
    (.iteration number, members) ∈ flow.boxes options ↔
      ∃ group, (flow.shownGroups options)[number]? = some group ∧ group.members = members := by
  simp only [boxes, List.mem_append, List.mem_map, Prod.exists, Prod.mk.injEq, reduceCtorEq,
    false_and, and_false, exists_false, or_false, GroupName.iteration.injEq,
    List.mem_zipIdx_iff_getElem?]
  constructor
  · rintro ⟨group, n, h, rfl, rfl⟩
    exact ⟨group, h, rfl⟩
  · rintro ⟨group, h, rfl⟩
    exact ⟨group, number, h, rfl, rfl⟩

theorem flatMap_boxes (options : DrawingOptions) (flow : Flow) :
    (flow.boxes options).flatMap Prod.snd = flow.placed options := by
  rw [boxes, placed, List.flatMap_append, List.flatMap_map, List.flatMap_map, List.flatMap_def,
    List.flatMap_def, List.flatMap_def]
  exact congrArg₂ (fun groups clusters : List (List Name) => groups.flatten ++ clusters.flatten)
    (map_zipIdx_fst IterationGroup.members _)
    ((map_zipIdx_fst id _).trans (List.map_id _))

theorem nodes_iterationBox (context : StyleContext) (group : IterationGroup) (number : Nat) :
    (Statement.subgraph (iterationBox context group number)).nodes =
      boxedNodes (.iteration number, group.members) := by
  rw [Statement.nodes, name_iterationBox, iterationBox, List.map_map]
  rfl

theorem nodes_cycleBox (context : StyleContext) (cluster : Cluster) (number : Nat) :
    (Statement.subgraph (cycleBox context cluster number)).nodes =
      boxedNodes (.cycle number, cluster) := by
  rw [Statement.nodes, name_cycleBox, cycleBox, List.map_map]
  rfl

theorem flatMap_none {α β : Type} (items : List α) : items.flatMap (fun _ => ([] : List β)) = [] :=
  List.flatMap_eq_nil_iff.mpr fun _ _ => rfl

section

variable (options : DrawingOptions) (index : FactIndex) (flow : Flow)

theorem nodes_statements :
    (flow.statements options index).flatMap Statement.nodes = flow.drawnNodes options := by
  have hlegend : (if options.showLegend then [Statement.subgraph legendBox] else []).flatMap
      Statement.nodes = (legendNodes options.showLegend).map (·, [none]) := by
    rw [legendNodes]
    split <;> rfl
  have hnode : ∀ name, (Statement.node (nodeStatement (flow.context options index) name)).nodes =
      [(name, [])] := fun name => rfl
  have hedge : ∀ edge, (Statement.edge edge).nodes = [] := fun edge => rfl
  simp only [statements, drawnNodes, boxes, List.flatMap_append, List.flatMap_map, hlegend, hnode,
    hedge, nodes_iterationBox, nodes_cycleBox, flatMap_none, List.append_nil, ← List.map_eq_flatMap]

theorem edges_statements :
    (flow.statements options index).flatMap Statement.edges = flow.edges.map Edge.ends := by
  have hlegend : (if options.showLegend then [Statement.subgraph legendBox] else []).flatMap
      Statement.edges = [] := by
    split <;> rfl
  simp only [statements, List.flatMap_append, List.flatMap_map, hlegend, Statement.edges,
    flatMap_none, List.nil_append, List.append_nil]
  exact List.map_eq_flatMap.symm

theorem subgraphs_statements :
    (flow.statements options index).flatMap Statement.subgraphs =
      (flow.boxes options).map (fun box => some (subgraphName box.1)) ++
        legendSubgraphs options.showLegend := by
  have hlegend : (if options.showLegend then [Statement.subgraph legendBox] else []).flatMap
      Statement.subgraphs = legendSubgraphs options.showLegend := by
    rw [legendSubgraphs]
    split <;> rfl
  simp only [statements, boxes, List.flatMap_append, List.flatMap_map, hlegend,
    Statement.subgraphs, name_iterationBox, name_cycleBox, flatMap_none, List.append_nil,
    ← List.map_eq_flatMap, List.map_append, List.map_map, Function.comp_def]

/-- The outline of a drawing. -/
theorem outline_graph :
    (flow.graph options index).outline =
      { nodes := flow.drawnNodes options
        edges := flow.edges.map Edge.ends
        subgraphs :=
          (flow.boxes options).map (fun box => some (subgraphName box.1)) ++
            legendSubgraphs options.showLegend } := by
  rw [Graph.outline, graph, nodes_statements, edges_statements, subgraphs_statements]

end

/-! ## What the outline shows -/

/-- An outline that shows a flow and nothing else. Every node of the flow has one statement, which
stands in the subgraph of the cluster or the group that the node is a member of, and outside all
subgraphs if there is none; the edges are those of the flow in their order; and the subgraphs are
those of the groups and the clusters. A legend adds a node of its own in a nameless subgraph. -/
structure Depicts (showLegend : Bool) (flow : Flow) (outline : Outline) : Prop where
  nodes : (outline.nodes.map Prod.fst).Perm (flow.nodes ++ legendNodes showLegend)
  nodup : (outline.nodes.map Prod.fst).Nodup
  inCycle : ∀ name number,
    (name, [some (subgraphName (.cycle number))]) ∈ outline.nodes ↔
      ∃ cluster, flow.clusters[number]? = some cluster ∧ name ∈ cluster
  inIteration : ∀ name number,
    (name, [some (subgraphName (.iteration number))]) ∈ outline.nodes ↔
      ∃ group, flow.groups[number]? = some group ∧ name ∈ group.members
  outside : ∀ name,
    (name, []) ∈ outline.nodes ↔
      name ∈ flow.nodes ∧ (∀ cluster ∈ flow.clusters, name ∉ cluster) ∧
        ∀ group ∈ flow.groups, name ∉ group.members
  edges : outline.edges = flow.edges.map Edge.ends
  subgraphs : outline.subgraphs =
    (List.range flow.groups.length).map (fun number => some (subgraphName (.iteration number))) ++
      (List.range flow.clusters.length).map (fun number => some (subgraphName (.cycle number))) ++
      legendSubgraphs showLegend

theorem mem_flatMap_boxedNodes {boxes : List (GroupName × List Name)} {name : Name}
    {group : GroupName} :
    (name, [some (subgraphName group)]) ∈ boxes.flatMap boxedNodes ↔
      ∃ members, (group, members) ∈ boxes ∧ name ∈ members := by
  simp only [boxedNodes, List.mem_flatMap, List.mem_map, Prod.mk.injEq, List.cons.injEq,
    Option.some.injEq, and_true, Prod.exists]
  constructor
  · rintro ⟨group', members, hbox, member, hmember, rfl, hgroup⟩
    obtain rfl := subgraphName_injective hgroup
    exact ⟨members, hbox, hmember⟩
  · rintro ⟨members, hbox, hname⟩
    exact ⟨group, members, hbox, name, hname, rfl, rfl⟩

theorem map_fst_flatMap_boxedNodes (boxes : List (GroupName × List Name)) :
    (boxes.flatMap boxedNodes).map Prod.fst = boxes.flatMap Prod.snd := by
  have hbox : ∀ box, (boxedNodes box).map Prod.fst = box.2 := by
    intro box
    rw [boxedNodes, List.map_map]
    exact List.map_id _
  simp only [List.map_flatMap, hbox]

theorem mem_placed {name : Name} :
    name ∈ flow.placed options ↔
      (∃ group ∈ flow.shownGroups options, name ∈ group.members) ∨
        ∃ cluster ∈ flow.clusters, name ∈ cluster := by
  rw [placed, List.mem_append, List.mem_flatMap, List.mem_flatten]

theorem mem_unplaced {name : Name} :
    name ∈ flow.unplaced options ↔ name ∈ flow.nodes ∧ name ∉ flow.placed options := by
  simp [unplaced]

/-- No node is placed twice. -/
theorem nodup_placed
    (hfits : Fits flow.nodes flow.clusters (flow.shownGroups options) flow.edges) :
    (flow.placed options).Nodup := by
  have h := hfits.nodup
  rw [memberLists, List.flatten_append, ← List.flatMap_def] at h
  exact List.perm_append_comm.nodup_iff.mp h

theorem placed_subset_nodes
    (hfits : Fits flow.nodes flow.clusters (flow.shownGroups options) flow.edges) :
    flow.placed options ⊆ flow.nodes := by
  intro v hv
  rcases mem_placed.mp hv with ⟨group, hgroup, hv⟩ | ⟨cluster, hcluster, hv⟩
  · exact subset_nodes_of_mem_shownGroups hfits hgroup hv
  · exact subset_nodes_of_mem_clusters hfits hcluster hv

/-- The placed nodes and the others are the nodes of the flow. -/
theorem placed_append_unplaced_perm
    (hfits : Fits flow.nodes flow.clusters (flow.shownGroups options) flow.edges)
    (hnodup : flow.nodes.Nodup) :
    (flow.placed options ++ flow.unplaced options).Perm flow.nodes := by
  have hplaced := nodup_placed hfits
  have hunplaced : (flow.unplaced options).Nodup := hnodup.filter _
  have hdisjoint : (flow.placed options).Disjoint (flow.unplaced options) :=
    fun v hv hv' => (mem_unplaced.mp hv').2 hv
  refine (List.perm_ext_iff_of_nodup (hplaced.append hunplaced hdisjoint) hnodup).mpr fun v => ?_
  rw [List.mem_append, mem_unplaced]
  constructor
  · rintro (hv | hv)
    · exact placed_subset_nodes hfits hv
    · exact hv.1
  · intro hv
    by_cases hmem : v ∈ flow.placed options
    · exact Or.inl hmem
    · exact Or.inr ⟨hv, hmem⟩

theorem map_fst_boxes (options : DrawingOptions) (flow : Flow) :
    (flow.boxes options).map (fun box => some (subgraphName box.1)) =
      (List.range (flow.shownGroups options).length).map
          (fun number => some (subgraphName (.iteration number))) ++
        (List.range flow.clusters.length).map
          fun number => some (subgraphName (.cycle number)) := by
  have hrange : ∀ {α : Type} (f : Nat → Option Text) (items : List α),
      items.zipIdx.map (fun item => f item.2) = (List.range items.length).map f := by
    intro α f items
    rw [← Function.comp_def f Prod.snd, ← List.map_map, List.zipIdx_map_snd, List.range_eq_range']
  rw [boxes, List.map_append, List.map_map, List.map_map]
  exact congrArg₂ _ (hrange (fun number => some (subgraphName (.iteration number))) _)
    (hrange (fun number => some (subgraphName (.cycle number))) _)

theorem map_fst_drawnNodes (options : DrawingOptions) (flow : Flow) :
    (flow.drawnNodes options).map Prod.fst =
      flow.placed options ++ flow.unplaced options ++ legendNodes options.showLegend := by
  rw [drawnNodes, List.map_append, List.map_append, map_fst_flatMap_boxedNodes, flatMap_boxes,
    List.map_map, List.map_map]
  exact congrArg₂ _ (congrArg₂ _ rfl (List.map_id _)) (List.map_id _)

theorem mem_drawnNodes_boxed {name : Name} {group : GroupName} :
    (name, [some (subgraphName group)]) ∈ flow.drawnNodes options ↔
      ∃ members, (group, members) ∈ flow.boxes options ∧ name ∈ members := by
  rw [drawnNodes, List.mem_append, List.mem_append, mem_flatMap_boxedNodes]
  simp

theorem mem_drawnNodes_outer {name : Name} :
    (name, []) ∈ flow.drawnNodes options ↔ name ∈ flow.unplaced options := by
  simp [drawnNodes, boxedNodes]

/-- A drawing shows its flow, if all groups are shown and no node has the name of the legend. -/
theorem depicts_outline (index : FactIndex)
    (hfits : Fits flow.nodes flow.clusters (flow.shownGroups options) flow.edges)
    (hnodup : flow.nodes.Nodup) (hlegend : Legend.node ∉ flow.nodes)
    (hshown : flow.shownGroups options = flow.groups) :
    Depicts options.showLegend flow (flow.graph options index).outline := by
  have hperm : ((flow.drawnNodes options).map Prod.fst).Perm
      (flow.nodes ++ legendNodes options.showLegend) := by
    rw [map_fst_drawnNodes]
    exact (placed_append_unplaced_perm hfits hnodup).append_right _
  have hall : (flow.nodes ++ legendNodes options.showLegend).Nodup := by
    rw [legendNodes]
    split
    · rw [← List.concat_eq_append]
      exact hnodup.concat hlegend
    · rwa [List.append_nil]
  rw [outline_graph]
  refine ⟨hperm, hperm.nodup_iff.mpr hall, ?_, ?_, ?_, rfl, ?_⟩
  · intro name number
    simp only [mem_drawnNodes_boxed, mem_boxes_cycle]
  · intro name number
    simp only [mem_drawnNodes_boxed, mem_boxes_iteration, hshown]
    constructor
    · rintro ⟨members, ⟨group, hgroup, rfl⟩, hname⟩
      exact ⟨group, hgroup, hname⟩
    · rintro ⟨group, hgroup, hname⟩
      exact ⟨group.members, ⟨group, hgroup, rfl⟩, hname⟩
  · intro name
    rw [mem_drawnNodes_outer, mem_unplaced, mem_placed, hshown]
    constructor
    · rintro ⟨hnode, hplaced⟩
      exact ⟨hnode, fun cluster hcluster hname => hplaced (Or.inr ⟨cluster, hcluster, hname⟩),
        fun group hgroup hname => hplaced (Or.inl ⟨group, hgroup, hname⟩)⟩
    · rintro ⟨hnode, hclusters, hgroups⟩
      refine ⟨hnode, ?_⟩
      rintro (⟨group, hgroup, hname⟩ | ⟨cluster, hcluster, hname⟩)
      · exact hgroups group hgroup hname
      · exact hclusters cluster hcluster hname
  · rw [map_fst_boxes, hshown]

/-! ## Counting -/

namespace Depicts

variable {showLegend : Bool} {outline : Outline}

/-- The node statements are as many as the nodes, apart from the one of the legend. -/
theorem countP_nodes (h : Depicts showLegend flow outline) (hlegend : Legend.node ∉ flow.nodes) :
    outline.nodes.countP (·.1 ≠ Legend.node) = flow.nodes.length := by
  have hnode : flow.nodes.countP (· ≠ Legend.node) = flow.nodes.length := by
    rw [List.countP_eq_length]
    intro name hname
    exact decide_eq_true fun heq => hlegend (heq ▸ hname)
  have hextra : (legendNodes showLegend).countP (· ≠ Legend.node) = 0 := by
    rw [legendNodes]
    split <;> decide
  have hcount := h.nodes.countP_eq (· ≠ Legend.node)
  rw [List.countP_map, List.countP_append, hnode, hextra] at hcount
  exact hcount

/-- The subgraphs whose names start with a stem are those of one kind of groups. -/
theorem countP_subgraphs (h : Depicts showLegend flow outline) (stem : Text)
    {cycles iterations : Bool}
    (hcycle : ∀ number, stem.isPrefixOf (subgraphName (.cycle number)) = cycles)
    (hiteration : ∀ number, stem.isPrefixOf (subgraphName (.iteration number)) = iterations) :
    outline.subgraphs.countP (·.any stem.isPrefixOf) =
      (if iterations then flow.groups.length else 0) +
        if cycles then flow.clusters.length else 0 := by
  have hextra : (legendSubgraphs showLegend).countP (·.any stem.isPrefixOf) = 0 := by
    rw [legendSubgraphs]
    split <;> rfl
  have hconst : ∀ (value : Bool) (count : Nat),
      (List.range count).countP (fun _ => value) = if value then count else 0 := by
    intro value count
    cases value <;> simp
  rw [h.subgraphs, List.countP_append, List.countP_append, hextra, List.countP_map,
    List.countP_map]
  simp only [Function.comp_def, Option.any_some, hcycle, hiteration, hconst, Nat.add_zero]

theorem countP_cycles (h : Depicts showLegend flow outline) :
    outline.subgraphs.countP (·.any cycleStem.isPrefixOf) = flow.clusters.length := by
  rw [h.countP_subgraphs cycleStem (fun n => (isPrefixOf_subgraphName n).1)
    (fun n => (isPrefixOf_subgraphName n).2.1)]
  exact Nat.zero_add _

theorem countP_iterations (h : Depicts showLegend flow outline) :
    outline.subgraphs.countP (·.any iterationStem.isPrefixOf) = flow.groups.length :=
  h.countP_subgraphs iterationStem (fun n => (isPrefixOf_subgraphName n).2.2.1)
    (fun n => (isPrefixOf_subgraphName n).2.2.2)

end Depicts

end Flow

end FlowDiagram
