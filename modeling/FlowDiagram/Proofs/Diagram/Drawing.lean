import FlowDiagram.Diagram.Drawing
import FlowDiagram.Proofs.Dot.Reader

/-!
# Drawings can be written and read

Whatever a diagram shows is escaped where it is a label and quoted where it is a name, and
everything else in it is fixed. So every attribute of a drawing can be written, and is read as one
attribute.

`Flow.isLegible_statements` and `Flow.isWritable_graph` are the main results.
-/

namespace FlowDiagram.Flow

open Dot

variable {options : DrawingOptions} {index : FactIndex} {flow : Flow}

/-! ## Attributes -/

theorem isLegible_label (text : Text) :
    (Attribute.plain "label" (escapeLabel text)).isLegible = true := by
  have hkey :
      (isIdentifier (Text.ofString "label") && !isKeyword (Text.ofString "label")) = true := by
    decide
  have hline : (escapeLabel text).contains (.char '\n') = false := by
    rw [Bool.eq_false_iff]
    exact fun h => newline_not_mem_escapeLabel text (List.contains_iff_mem.mp h)
  rw [Attribute.isLegible, Attribute.plain, hkey, Bool.true_and, Value.isLegible,
    isQuotable_escapeLabel, hline]
  rfl

theorem isLegible_legend :
    (Attribute.mk "label" (.html (Legend.html Legend.entries Legend.title))).isLegible = true := by
  decide +kernel

theorem isLegible_node (context : StyleContext) (name : Name) :
    ∀ a ∈ (nodeStatement context name).attributes, a.isLegible = true := by
  intro a ha
  simp only [nodeStatement, List.mem_append, List.mem_cons, List.not_mem_nil, or_false] at ha
  rcases ha with ((rfl | rfl) | ha) | rfl
  · exact isLegible_label _
  · generalize (StyledNode.ofName Role.all context name).role = role
    cases role <;> decide
  · generalize (StyledNode.ofName Role.all context name).role = role at ha
    cases role <;> simp [Role.shape?] at ha <;> rw [ha] <;> decide
  · decide

theorem isLegible_iterationBox (context : StyleContext) (group : IterationGroup) (number : Nat) :
    ∀ a ∈ (iterationBox context group number).attributes, a.isLegible = true := by
  intro a ha
  simp only [iterationBox, boxAttributes, Option.map_none, Option.toList_none, List.append_nil,
    List.cons_append, List.nil_append, List.mem_cons, List.not_mem_nil, or_false] at ha
  rcases ha with rfl | rfl | rfl | rfl | rfl | rfl | rfl
  case inr.inr.inr.inr.inl => exact isLegible_label _
  all_goals decide

theorem isLegible_cycleBox (context : StyleContext) (cluster : Cluster) (number : Nat) :
    ∀ a ∈ (cycleBox context cluster number).attributes, a.isLegible = true := by
  intro a ha
  simp only [cycleBox, boxAttributes, Option.map_some, Option.toList_some, List.cons_append,
    List.nil_append, List.mem_cons, List.not_mem_nil, or_false] at ha
  rcases ha with rfl | rfl | rfl | rfl | rfl | rfl | rfl | rfl
  case inr.inr.inr.inr.inr.inl => exact isLegible_label _
  all_goals decide

theorem isLegible_style (options : DrawingOptions) (missing : List Name) (edge : Edge) :
    ∀ row ∈ (EdgeStyle.ofEdge options missing edge).attributes,
      (Attribute.plain row.1 row.2).isLegible = true := by
  unfold EdgeStyle.ofEdge
  split
  · decide
  · split
    · decide
    · split
      · decide
      · split <;> decide

theorem isLegible_edge (options : DrawingOptions) (missing : List Name) (edge : Edge) :
    ∀ a ∈ (edgeStatement (StyledEdge.ofEdge options missing edge)).attributes,
      a.isLegible = true := by
  intro a ha
  rcases List.mem_append.mp ha with ha | ha
  · split at ha
    · exact absurd ha List.not_mem_nil
    · rw [List.mem_singleton.mp ha]
      exact isLegible_label _
  · obtain ⟨row, hrow, rfl⟩ := List.mem_map.mp ha
    exact isLegible_style options missing edge row hrow

theorem isLegible_legendBox :
    ∀ a ∈ Graph.attributesOf (.subgraph legendBox), a.isLegible = true := by
  simp only [Graph.attributesOf, legendBox, List.flatMap_cons, List.flatMap_nil, List.append_nil,
    List.forall_mem_append, List.forall_mem_cons]
  exact ⟨⟨by decide, fun _ h => absurd h List.not_mem_nil⟩, isLegible_legend, by decide, by decide,
    fun _ h => absurd h List.not_mem_nil⟩

/-- Every attribute of a statement of a flow's graph is read as one attribute. -/
theorem isLegible_statements (options : DrawingOptions) (index : FactIndex) (flow : Flow) :
    ∀ s ∈ flow.statements options index, ∀ a ∈ Graph.attributesOf s, a.isLegible = true := by
  have hnodes : ∀ (members : List Name) (a : Attribute),
      a ∈ (members.map (nodeStatement (flow.context options index))).flatMap
        NodeStatement.attributes → a.isLegible = true := by
    intro members a ha
    obtain ⟨node, hnode, ha⟩ := List.mem_flatMap.mp ha
    obtain ⟨name, -, rfl⟩ := List.mem_map.mp hnode
    exact isLegible_node _ name a ha
  intro s hs a ha
  simp only [statements, List.mem_append, List.mem_map] at hs
  rcases hs with (((⟨⟨group, number⟩, -, rfl⟩ | ⟨⟨cluster, number⟩, -, rfl⟩) | ⟨name, -, rfl⟩) |
    ⟨edge, -, rfl⟩) | hs
  · rcases List.mem_append.mp ha with ha | ha
    · exact isLegible_iterationBox _ group number a ha
    · exact hnodes group.members a ha
  · rcases List.mem_append.mp ha with ha | ha
    · exact isLegible_cycleBox _ cluster number a ha
    · exact hnodes cluster a ha
  · exact isLegible_node _ name a ha
  · exact isLegible_edge options _ edge a ha
  · split at hs
    · rw [List.mem_singleton.mp hs] at ha
      exact isLegible_legendBox a ha
    · exact absurd hs List.not_mem_nil

theorem isLegible_graph (options : DrawingOptions) (index : FactIndex) (flow : Flow) :
    ∀ a ∈ (flow.graph options index).attributes, a.isLegible = true := by
  simp only [graph, List.forall_mem_cons]
  refine ⟨by decide, isLegible_label _, by decide, by decide, ?_, fun _ h =>
    absurd h List.not_mem_nil⟩
  cases options.routing <;> decide

/-- Every diagram can be written. -/
theorem isWritable_graph (options : DrawingOptions) (index : FactIndex) (flow : Flow) :
    (flow.graph options index).isWritable = true := by
  have hvalue : ∀ a : Attribute, a.isLegible = true → a.value.isWritable = true := by
    intro a ha
    rw [Attribute.isLegible, Bool.and_eq_true] at ha
    cases hv : a.value with
    | plain text =>
      rw [hv, Value.isLegible, Bool.and_eq_true (isQuotable text)] at ha
      rw [Value.isWritable, ha.2.1, Bool.or_true]
    | html text => rfl
  rw [Graph.isWritable, List.all_eq_true]
  intro a ha
  rcases List.mem_append.mp ha with ha | ha
  · exact hvalue a (isLegible_graph options index flow a ha)
  · obtain ⟨s, hs, ha⟩ := List.mem_flatMap.mp ha
    exact hvalue a (isLegible_statements options index flow s hs a ha)

end FlowDiagram.Flow
