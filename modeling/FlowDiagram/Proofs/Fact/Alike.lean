import FlowDiagram.Diagram.Condition
import FlowDiagram.Graph.Edge
import FlowDiagram.Proofs.Fact.Index
import Mathlib.Data.List.Forall2

/-!
# Facts that differ in their conditions

Facts are alike if they differ in the wording of conditions only, and if no wording makes a
condition the other branch in one of them and not in the other. A transition with a condition is
never like one without.

## Main definitions

* `Transition.Alike`, `ProcessorFact.Alike`: facts that differ in the wording of conditions only.
* `FactIndex.Alike`: indexes of such facts.

`FactIndex.alike_build` is the main result.
-/

namespace FlowDiagram

/-- The texts of two conditions are both shown as the other branch, or none of them is. -/
def SameBranch (options : DrawingOptions) (condition other : Text) : Prop :=
  formatCondition options condition = elseLabel ↔ formatCondition options other = elseLabel

instance (options : DrawingOptions) (condition other : Text) :
    Decidable (SameBranch options condition other) :=
  inferInstanceAs (Decidable (_ ↔ _))

/-- Transitions that differ in the wording of their conditions only. -/
structure Transition.Alike (options : DrawingOptions) (transition other : Transition) : Prop where
  target : transition.target = other.target
  condition : Option.Rel (SameBranch options) transition.condition other.condition
  isFeatureFlagged : transition.isFeatureFlagged = other.isFeatureFlagged
  featureFlagName : transition.featureFlagName = other.featureFlagName
  fanOutTargets : transition.fanOutTargets = other.fanOutTargets

/-- Processors that differ in the wording of conditions only. -/
structure ProcessorFact.Alike (options : DrawingOptions) (processor other : ProcessorFact) :
    Prop where
  activity : processor.activity = other.activity
  processorName : processor.processorName = other.processorName
  transitions :
    List.Forall₂ (Transition.Alike options) processor.transitions other.transitions
  createsManualTask : processor.createsManualTask = other.createsManualTask
  completesFlow : processor.completesFlow = other.completesFlow

/-- Indexes with the same classes and with alike processors under the same activities. -/
structure FactIndex.Alike (options : DrawingOptions) (index other : FactIndex) : Prop where
  classes : index.classes = other.classes
  processor? : ∀ activity, Option.Rel (ProcessorFact.Alike options) (index.processor? activity)
    (other.processor? activity)

variable {options : DrawingOptions}

namespace Transition.Alike

variable {transition other : Transition} (h : transition.Alike options other)

include h

theorem isFanOut_eq : transition.isFanOut = other.isFanOut := by
  rw [isFanOut, isFanOut, h.fanOutTargets]

theorem targets_eq : transition.targets = other.targets := by
  rw [targets, targets, h.isFanOut_eq, h.fanOutTargets, h.target]

theorem isSome_condition : transition.condition.isSome = other.condition.isSome := by
  match transition.condition, other.condition, h.condition with
  | _, _, .some _ => rfl
  | _, _, .none => rfl

end Transition.Alike

namespace ProcessorFact.Alike

variable {processor other : ProcessorFact} (h : processor.Alike options other)

include h

/-- What is the same for alike transitions is the same for those of alike processors. -/
theorem map_transitions {α : Type} {f g : Transition → α}
    (hfg : ∀ {a b : Transition}, a.Alike options b → f a = g b) :
    processor.transitions.map f = other.transitions.map g := by
  rw [← List.forall₂_eq_eq_eq]
  exact List.rel_map (fun _ _ hab => hfg hab) h.transitions

theorem hasConditions_eq : processor.hasConditions = other.hasConditions := by
  have hmap := h.map_transitions Transition.Alike.isSome_condition
  calc processor.transitions.any (·.condition.isSome)
      = (processor.transitions.map (·.condition.isSome)).any id := by rw [List.any_map]; rfl
    _ = (other.transitions.map (·.condition.isSome)).any id := by rw [hmap]
    _ = other.transitions.any (·.condition.isSome) := by rw [List.any_map]; rfl

theorem signalsCompletion_eq : processor.signalsCompletion = other.signalsCompletion := by
  have hmap := h.map_transitions (f := fun _ => ()) (g := fun _ => ()) fun _ => rfl
  rw [signalsCompletion, signalsCompletion, h.completesFlow, ← List.isEmpty_map, hmap,
    List.isEmpty_map]

end ProcessorFact.Alike

namespace FactIndex

theorem alike_empty : empty.Alike options empty where
  classes := rfl
  processor? _ := .none

theorem Alike.addClass {index other : FactIndex} (h : index.Alike options other)
    (fact : ClassFact) : (index.addClass fact).Alike options (other.addClass fact) where
  classes := congrArg (·.insert fact.name fact) h.classes
  processor? := h.processor?

/-- Alike processors take the places of alike processors. -/
theorem Alike.addProcessor {index other : FactIndex} (h : index.Alike options other)
    {processor fact : ProcessorFact} (halike : processor.Alike options fact) :
    (index.addProcessor processor).Alike options (other.addProcessor fact) where
  classes := h.classes
  processor? activity := by
    simp only [FactIndex.processor?, FactIndex.addProcessor, Table.get?_insert, halike.activity]
    split
    · exact .some halike
    · exact h.processor? activity

/-- The indexes of alike facts are alike. -/
theorem alike_build (classes : List ClassFact) {processors others : List ProcessorFact}
    (h : List.Forall₂ (ProcessorFact.Alike options) processors others) :
    (build classes processors).Alike options (build classes others) := by
  have hclasses : (classes.foldl FactIndex.addClass empty).Alike options
      (classes.foldl FactIndex.addClass empty) :=
    List.foldlRecOn (motive := fun index => index.Alike options index) classes FactIndex.addClass
      alike_empty fun _ hindex fact _ => hindex.addClass fact
  exact List.rel_foldl (fun _ _ hindex _ _ halike => hindex.addProcessor halike) hclasses h

variable {index other : FactIndex}

theorem Alike.class?_eq (h : index.Alike options other) : index.class? = other.class? := by
  funext name
  rw [class?, class?, h.classes]

theorem Alike.isNone_processor? (h : index.Alike options other) (activity : Name) :
    (index.processor? activity).isNone = (other.processor? activity).isNone := by
  match index.processor? activity, other.processor? activity, h.processor? activity with
  | _, _, .some _ => rfl
  | _, _, .none => rfl

theorem Alike.createsManualTask_eq (h : index.Alike options other) (activity : Name) :
    index.createsManualTask activity = other.createsManualTask activity := by
  rw [createsManualTask, createsManualTask]
  match index.processor? activity, other.processor? activity, h.processor? activity with
  | _, _, .some halike => exact halike.createsManualTask
  | _, _, .none => rfl

end FactIndex

end FlowDiagram
