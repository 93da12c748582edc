import FlowDiagram.Proofs.Diagram.Drawing
import FlowDiagram.Proofs.Diagram.Structure
import FlowDiagram.Proofs.Fact.Index
import Mathlib.Data.List.Duplicate

/-!
# What keeps a flow from being drawn

A flow that does not fit together is refused, and every other flow is drawn. The flow may be any:
its nodes, groups and edges need not come from facts.

The nodes of a flow can be styled once, before anything is written, and looked up by their names as
the statements are made. A member of a group that is no node would not be found then, but such a
group has been refused before. So the two ways to draw agree on every flow.

## Main definitions

* `Flow.Unfit`: what is wrong with a flow that is refused.
* `Flow.emit`: drawing with the styled nodes in a table.

`Flow.draw_iff_unfit` is the main result.
-/

namespace FlowDiagram

namespace Flow

open Dot (NodeStatement Statement Subgraph)

/-- A flow that does not fit together: some group that is shown has no members, some member is no
node, some name is a member twice, or some edge does not join nodes. -/
def Unfit (options : DrawingOptions) (flow : Flow) : Prop :=
  let members := memberLists flow.clusters (flow.shownGroups options)
  (∃ group ∈ members, group = []) ∨
    (∃ group ∈ members, ∃ member ∈ group, member ∉ flow.nodes) ∨
    (∃ name, List.Duplicate name members.flatten) ∨
    ∃ edge ∈ flow.edges, edge.source ∉ flow.nodes ∨ edge.target ∉ flow.nodes

/-- A flow fits together, or something is wrong with it. -/
theorem unfit_iff {options : DrawingOptions} {flow : Flow} :
    flow.Unfit options ↔
      ¬Fits flow.nodes flow.clusters (flow.shownGroups options) flow.edges := by
  constructor
  · rintro (⟨group, hgroup, hnil⟩ | ⟨group, hgroup, member, hmember, hunknown⟩ | ⟨name, htwice⟩ |
      ⟨edge, hedge, hunknown⟩) hfits
    · exact hfits.nonempty group hgroup hnil
    · exact hunknown (hfits.known group hgroup hmember)
    · exact htwice.not_nodup hfits.nodup
    · rcases hunknown with hsource | htarget
      · exact hsource (hfits.ends edge hedge).1
      · exact htarget (hfits.ends edge hedge).2
  · intro hfits
    by_contra hnone
    simp only [Unfit, not_or, not_exists, not_and, not_not] at hnone
    obtain ⟨hnonempty, hknown, honce, hends⟩ := hnone
    refine hfits ⟨hnonempty, hknown, ?_, hends⟩
    by_contra htwice
    obtain ⟨name, hname⟩ := List.exists_duplicate_iff_not_nodup.mpr htwice
    exact honce name hname

/-! ## Drawing from a table -/

/-- Why a flow cannot be drawn from a table of its nodes. -/
inductive EmissionError
  /-- The flow is refused. -/
  | refused (error : DrawingError)
  /-- No styled node has this name. -/
  | unstyled (name : Name)
  deriving DecidableEq, Repr

/-- The styled nodes of a flow by their names. -/
def styledNodes (context : StyleContext) (nodes : List Name) : Table StyledNode :=
  nodes.foldl (fun table name => table.insert name (StyledNode.ofName Role.all context name)) .empty

/-- The statement of a styled node. -/
def statementOf (node : StyledNode) : NodeStatement :=
  { name := node.name
    attributes :=
      [.plain "label" (Dot.escapeLabel node.label), .plain "fillcolor" node.role.colour] ++
        (node.role.shape?.map fun shape => .plain "shape" shape).toList ++
        [.plain "style" StyledNode.style] }

/-- The statement of a node that is looked up by its name. -/
def lookUp (table : Table StyledNode) (name : Name) : Except EmissionError NodeStatement :=
  match table.get? name with
  | some node => .ok (statementOf node)
  | none => .error (.unstyled name)

/-- A box with its members looked up. -/
def emitBox (table : Table StyledNode) (box : Subgraph) (members : List Name) :
    Except EmissionError Statement := do
  let nodes ← members.mapM (lookUp table)
  pure (.subgraph { box with nodes })

/-- The statements of a flow's graph, with all nodes looked up. -/
def emitStatements (options : DrawingOptions) (index : FactIndex) (flow : Flow) :
    Except EmissionError (List Statement) := do
  let context := flow.context options index
  let table := styledNodes context flow.nodes
  let groups ← (flow.shownGroups options).zipIdx.mapM fun (group, number) =>
    emitBox table (iterationBox context group number) group.members
  let clusters ← flow.clusters.zipIdx.mapM fun (cluster, number) =>
    emitBox table (cycleBox context cluster number) cluster
  let others ← (flow.unplaced options).mapM (lookUp table)
  let edges := flow.edges.map fun edge =>
    Statement.edge (edgeStatement (StyledEdge.ofEdge options flow.walk.missing edge))
  pure (groups ++ clusters ++ others.map .node ++ edges ++
    if options.showLegend then [.subgraph legendBox] else [])

/-- Draws a flow with its styled nodes in a table: checks it, makes the statements, and writes them
if all labels can be quoted. -/
def emit (options : DrawingOptions) (index : FactIndex) (flow : Flow) :
    Except EmissionError Text :=
  match checkStructure flow.nodes flow.clusters (flow.shownGroups options) flow.edges with
  | .error e => .error (.refused (.structural e))
  | .ok () => do
    let statements ← flow.emitStatements options index
    let graph := { flow.graph options index with statements }
    if graph.isWritable then pure graph.text else .error (.refused .unquotable)

/-! ## Nothing is missing from the table -/

theorem mapM_eq_ok {α β ε : Type} {f : α → Except ε β} {g : α → β} {items : List α}
    (h : ∀ item ∈ items, f item = .ok (g item)) : items.mapM f = .ok (items.map g) := by
  induction items with
  | nil => rfl
  | cons item items ih =>
    obtain ⟨hitem, hitems⟩ := List.forall_mem_cons.mp h
    rw [List.mapM_cons, hitem, ih hitems]
    rfl

section Emission

variable {context : StyleContext} {nodes : List Name}

/-- A node is found in the table with its style, and nothing else is found. -/
theorem get?_styledNodes (name : Name) :
    (styledNodes context nodes).get? name =
      if name ∈ nodes then some (StyledNode.ofName Role.all context name) else none := by
  induction nodes using List.reverseRecOn with
  | nil => simp [styledNodes, Table.get?, Table.empty]
  | append_singleton nodes last ih =>
    rw [styledNodes, List.foldl_append, ← styledNodes, List.foldl_cons, List.foldl_nil,
      Table.get?_insert, ih]
    by_cases hlast : name = last
    · simp [hlast]
    · simp [hlast]

theorem lookUp_of_mem {name : Name} (h : name ∈ nodes) :
    lookUp (styledNodes context nodes) name = .ok (nodeStatement context name) := by
  rw [lookUp, get?_styledNodes, if_pos h]
  rfl

theorem mapM_lookUp_of_subset {members : List Name} (h : members ⊆ nodes) :
    members.mapM (lookUp (styledNodes context nodes)) =
      .ok (members.map (nodeStatement context)) :=
  mapM_eq_ok fun _ hmember => lookUp_of_mem (h hmember)

/-- The box of a group of nodes is emitted as it is. -/
theorem emitBox_of_subset {box : Subgraph} {members : List Name} (h : members ⊆ nodes)
    (hbox : box.nodes = members.map (nodeStatement context)) :
    emitBox (styledNodes context nodes) box members = .ok (.subgraph box) := by
  rw [emitBox, mapM_lookUp_of_subset h, ← hbox]
  rfl

end Emission

variable {options : DrawingOptions} {index : FactIndex} {flow : Flow}

/-- The statements of a flow that fits together are those of its graph. -/
theorem emitStatements_of_fits
    (h : Fits flow.nodes flow.clusters (flow.shownGroups options) flow.edges) :
    flow.emitStatements options index = .ok (flow.statements options index) := by
  have hgroups : ∀ row ∈ (flow.shownGroups options).zipIdx,
      emitBox (styledNodes (flow.context options index) flow.nodes)
          (iterationBox (flow.context options index) row.1 row.2) row.1.members =
        .ok (.subgraph (iterationBox (flow.context options index) row.1 row.2)) := by
    intro row hrow
    refine emitBox_of_subset (h.known _ (List.mem_append_right _ ?_)) rfl
    exact List.mem_map_of_mem (List.fst_mem_of_mem_zipIdx hrow)
  have hclusters : ∀ row ∈ flow.clusters.zipIdx,
      emitBox (styledNodes (flow.context options index) flow.nodes)
          (cycleBox (flow.context options index) row.1 row.2) row.1 =
        .ok (.subgraph (cycleBox (flow.context options index) row.1 row.2)) := by
    intro row hrow
    refine emitBox_of_subset (h.known _ (List.mem_append_left _ ?_)) rfl
    exact List.fst_mem_of_mem_zipIdx hrow
  have hothers : flow.unplaced options ⊆ flow.nodes := fun _ h => (List.mem_filter.mp h).1
  rw [emitStatements, mapM_eq_ok hgroups, mapM_eq_ok hclusters, mapM_lookUp_of_subset hothers]
  simp only [bind, Except.bind, pure, Except.pure, statements, List.map_map, Function.comp_def]

/-- Drawing from a table is drawing: whatever is looked up is found. -/
theorem emit_eq_draw (options : DrawingOptions) (index : FactIndex) (flow : Flow) :
    flow.emit options index = (flow.draw options index).mapError .refused := by
  rw [emit, draw]
  cases hcheck :
      checkStructure flow.nodes flow.clusters (flow.shownGroups options) flow.edges with
  | error e => rfl
  | ok u =>
    have hgraph : { flow.graph options index with statements := flow.statements options index } =
        flow.graph options index := rfl
    dsimp only
    rw [emitStatements_of_fits (checkStructure_eq_ok_iff.mp hcheck)]
    simp only [bind, Except.bind, hgraph]
    rw [if_pos (isWritable_graph options index flow), if_pos (isWritable_graph options index flow)]
    rfl

/-- Drawing a flow ends in the text of its graph, or in the reason why the flow is refused. -/
theorem draw_eq (options : DrawingOptions) (index : FactIndex) (flow : Flow) :
    flow.draw options index =
      match checkStructure flow.nodes flow.clusters (flow.shownGroups options) flow.edges with
      | .error e => .error (.structural e)
      | .ok () => .ok (flow.graph options index).text := by
  rw [draw]
  cases checkStructure flow.nodes flow.clusters (flow.shownGroups options) flow.edges with
  | error e => rfl
  | ok u =>
    dsimp only
    exact if_pos (isWritable_graph options index flow)

/-- A flow is refused exactly if something is wrong with it, and is drawn otherwise, whatever its
nodes, groups, edges and names are. Nothing else keeps it from being drawn: every node that is
looked up on the way is found, and every label can be quoted. -/
theorem draw_iff_unfit (options : DrawingOptions) (index : FactIndex) (flow : Flow) :
    ((∃ error, flow.draw options index = .error (.structural error)) ↔ flow.Unfit options) ∧
      (∀ text, flow.draw options index = .ok text ↔
        ¬flow.Unfit options ∧ text = (flow.graph options index).text) ∧
      flow.emit options index = (flow.draw options index).mapError .refused := by
  refine ⟨?_, fun text => ?_, emit_eq_draw options index flow⟩
  all_goals
    rw [unfit_iff, ← checkStructure_eq_ok_iff, draw_eq]
    cases checkStructure flow.nodes flow.clusters (flow.shownGroups options) flow.edges with
    | error e => simp
    | ok u => simp [eq_comm]

end Flow

end FlowDiagram
