import FlowDiagram.Diagram.Drawing
import FlowDiagram.Proofs.Diagram.Structure
import FlowDiagram.Proofs.Fact.Index

/-!
# What a diagram takes from the facts

A diagram shows a walk, so it looks at the facts again for the styles of its nodes only: whether a
node creates a manual task, and which supertypes it has. Facts that agree on this for the nodes of a
flow lead to the same diagram. A flow with other members in its groups is refused before anything is
drawn, so no other name is ever looked up.

`Flow.draw_congr` is the main result.
-/

namespace FlowDiagram.Flow

open Dot (Statement)

variable {index other : FactIndex} (hclass : index.class? = other.class?)

section Nodes

variable {options : DrawingOptions} (flow : Flow) {node : Name}
  (hmanual : index.createsManualTask node = other.createsManualTask node)

include hmanual

theorem nodeLabel_congr :
    nodeLabel (flow.context options index) node = nodeLabel (flow.context options other) node := by
  have hcontext : (flow.context options index).index.createsManualTask node =
      (flow.context options other).index.createsManualTask node := hmanual
  rw [nodeLabel, nodeLabel, hcontext]
  rfl

include hclass

/-- Two roles are a matter of facts. -/
theorem appliesTo_congr (role : Role) :
    Role.appliesTo (flow.context options index) node role =
      Role.appliesTo (flow.context options other) node role := by
  cases role with
  | highlight =>
    simp only [Role.appliesTo, Role.isHighlighted, context,
      FactIndex.hasSupertypeHolding_congr hclass]
  | manualTask => exact hmanual
  | _ => rfl

/-- A node looks the same over facts that say the same about it. -/
theorem nodeStatement_congr :
    nodeStatement (flow.context options index) node =
      nodeStatement (flow.context options other) node := by
  have hroles : Role.appliesTo (flow.context options index) node =
      Role.appliesTo (flow.context options other) node :=
    funext (appliesTo_congr hclass flow hmanual)
  simp only [nodeStatement, StyledNode.ofName, Role.choose, nodeLabel_congr flow hmanual, hroles]

end Nodes

variable (options : DrawingOptions) {flow : Flow}
  (hmanual : ∀ node ∈ flow.nodes, index.createsManualTask node = other.createsManualTask node)

include hclass hmanual

/-- The graph of a flow that fits together shows its nodes and no other names. -/
theorem graph_congr
    (hfits : Fits flow.nodes flow.clusters (flow.shownGroups options) flow.edges) :
    flow.graph options index = flow.graph options other := by
  have hnodes : ∀ names : List Name, names ⊆ flow.nodes →
      names.map (nodeStatement (flow.context options index)) =
        names.map (nodeStatement (flow.context options other)) := fun names hnames =>
    List.map_congr_left fun name hname =>
      nodeStatement_congr hclass flow (hmanual name (hnames hname))
  have hiterations : (flow.shownGroups options).zipIdx.map (fun item =>
        Statement.subgraph (iterationBox (flow.context options index) item.1 item.2)) =
      (flow.shownGroups options).zipIdx.map fun item =>
        Statement.subgraph (iterationBox (flow.context options other) item.1 item.2) := by
    refine List.map_congr_left fun item hmem => ?_
    have hgroup := List.fst_mem_of_mem_zipIdx hmem
    have hmembers := hfits.known _ (List.mem_append_right _ (List.mem_map_of_mem hgroup))
    simp only [iterationBox, hnodes item.1.members hmembers]
  have hcycles : flow.clusters.zipIdx.map (fun item =>
        Statement.subgraph (cycleBox (flow.context options index) item.1 item.2)) =
      flow.clusters.zipIdx.map fun item =>
        Statement.subgraph (cycleBox (flow.context options other) item.1 item.2) := by
    refine List.map_congr_left fun item hmem => ?_
    have hcluster := List.fst_mem_of_mem_zipIdx hmem
    simp only [cycleBox, hnodes item.1 (hfits.known _ (List.mem_append_left _ hcluster))]
  have hunplaced : (flow.unplaced options).map (fun name =>
        Statement.node (nodeStatement (flow.context options index) name)) =
      (flow.unplaced options).map fun name =>
        Statement.node (nodeStatement (flow.context options other) name) :=
    List.map_congr_left fun name hname => congrArg Statement.node
      (nodeStatement_congr hclass flow (hmanual name (List.mem_of_mem_filter hname)))
  have hstatements : flow.statements options index = flow.statements options other := by
    have hboxes := congrArg₂ List.append hiterations hcycles
    have hgroups := congrArg₂ List.append hboxes hunplaced
    exact congrArg₂ List.append (congrArg₂ List.append hgroups rfl) rfl
  rw [graph, graph, hstatements]

/-- Drawing a flow looks at nothing but what the facts say about its nodes. -/
theorem draw_congr : flow.draw options index = flow.draw options other := by
  rw [draw, draw]
  cases hcheck : checkStructure flow.nodes flow.clusters (flow.shownGroups options) flow.edges with
  | error e => rfl
  | ok _ => rw [graph_congr hclass options hmanual (checkStructure_eq_ok_iff.mp hcheck)]

end FlowDiagram.Flow
