import FlowDiagram.Graph.Walk
import Mathlib.Data.List.Forall2

/-!
# Edges that a processor declares

The edges out of an activity state what its processor declares: one for every target of every
transition, in the order of their declaration, and behind them one to the end if the flow may end
there.

## Main definitions

* `declarations`: the transitions of a processor with their targets.
* `Edge.States`: an edge says all that a transition says about one of its targets.
* `Outbound`: the edges out of one activity.
-/

namespace FlowDiagram

/-- The transitions of a processor with their targets, in the order of their declaration. -/
def declarations (processor : ProcessorFact) : List (Transition × Name) :=
  processor.transitions.flatMap fun transition => transition.targets.map (transition, ·)

/-- An edge of a single transition to one of its targets, with all that the transition says. -/
structure Edge.States (options : DrawingOptions) (processor : ProcessorFact)
    (declaration : Transition × Name) (edge : Edge) : Prop where
  source : edge.source = processor.activity
  target : edge.target = declaration.2
  label : edge.label = transitionLabel options processor declaration.1
  featureFlag : edge.featureFlag = transitionFlag declaration.1
  isFanOut : edge.isFanOut = declaration.1.isFanOut
  isBackEdge : edge.isBackEdge = false
  multiplicity : edge.multiplicity = 1

/-- The edges out of one activity: one for every target that its processor declares, and behind them
one to the end if the flow may end there. -/
def Outbound (options : DrawingOptions) (processor : ProcessorFact) (edges : List Edge) : Prop :=
  ∃ declared,
    List.Forall₂ (Edge.States options processor) (declarations processor) declared ∧
      edges = declared ++
        if processor.signalsCompletion then
          [{ source := processor.activity, target := endNode, multiplicity_pos := Nat.one_pos }]
        else []

theorem outbound_edgesOf (options : DrawingOptions) (processor : ProcessorFact) :
    Outbound options processor (edgesOf options processor) := by
  refine ⟨_, ?_, rfl⟩
  rw [declarations]
  induction processor.transitions with
  | nil => exact .nil
  | cons transition transitions ih =>
    rw [List.flatMap_cons, List.flatMap_cons]
    refine List.rel_append ?_ ih
    rw [transitionEdges]
    induction transition.targets with
    | nil => exact .nil
    | cons target targets ih => exact .cons ⟨rfl, rfl, rfl, rfl, rfl, rfl, rfl⟩ ih

theorem mem_declarations {processor : ProcessorFact} {transition : Transition} {target : Name} :
    (transition, target) ∈ declarations processor ↔
      transition ∈ processor.transitions ∧ target ∈ transition.targets := by
  simp [declarations]

/-- An edge out of an activity states what a transition declares, or leads to the end. -/
theorem states_or_end {options : DrawingOptions} {processor : ProcessorFact} {edge : Edge}
    (h : edge ∈ edgesOf options processor) :
    (∃ declaration ∈ declarations processor, edge.States options processor declaration) ∨
      edge = { source := processor.activity, target := endNode } := by
  rcases List.mem_append.mp h with h | h
  · obtain ⟨transition, htransition, h⟩ := List.mem_flatMap.mp h
    obtain ⟨target, htarget, rfl⟩ := List.mem_map.mp h
    exact Or.inl ⟨(transition, target), mem_declarations.mpr ⟨htransition, htarget⟩,
      ⟨rfl, rfl, rfl, rfl, rfl, rfl, rfl⟩⟩
  · split at h
    · exact Or.inr (List.mem_singleton.mp h)
    · exact absurd h List.not_mem_nil

/-- Every declared target has an edge that states it. -/
theorem exists_states (options : DrawingOptions) {processor : ProcessorFact}
    {declaration : Transition × Name} (h : declaration ∈ declarations processor) :
    ∃ edge ∈ edgesOf options processor, edge.States options processor declaration := by
  obtain ⟨transition, target⟩ := declaration
  obtain ⟨htransition, htarget⟩ := mem_declarations.mp h
  refine ⟨{ source := processor.activity
            target
            label := transitionLabel options processor transition
            featureFlag := transitionFlag transition
            isFanOut := transition.isFanOut }, ?_, ⟨rfl, rfl, rfl, rfl, rfl, rfl, rfl⟩⟩
  refine List.mem_append_left _ (List.mem_flatMap.mpr ⟨transition, htransition, ?_⟩)
  exact List.mem_map.mpr ⟨target, htarget, rfl⟩

/-- An activity with a processor is never left without a way out: where no transition is declared,
the flow ends. -/
theorem edgesOf_ne_nil (options : DrawingOptions) (processor : ProcessorFact) :
    edgesOf options processor ≠ [] := by
  cases htransitions : processor.transitions with
  | nil => simp [edgesOf, ProcessorFact.signalsCompletion, htransitions]
  | cons transition transitions =>
    obtain ⟨target, htarget⟩ := List.exists_mem_of_ne_nil _ transition.targets_ne_nil
    have hdeclared : (transition, target) ∈ declarations processor :=
      mem_declarations.mpr ⟨htransitions ▸ List.mem_cons_self, htarget⟩
    obtain ⟨edge, hedge, -⟩ := exists_states options hdeclared
    exact List.ne_nil_of_mem hedge

end FlowDiagram
