import FlowDiagram.Text.Basic

/-!
# Facts

What an extractor found out about a code base: its classes, and the processors that say which
activities may follow an activity. Facts are only read, never changed.

## Main definitions

* `ClassFact`: a class, its supertypes and the activity that it starts with, if any.
* `Transition`: a way out of an activity, to one activity or to several at once.
* `ProcessorFact`: the transitions out of one activity.
-/

namespace FlowDiagram

/-- The name of a class or an activity. -/
abbrev Name := Text

/-- One class of the code base. -/
structure ClassFact where
  name : Name
  sourceLocation : Option Text
  supertypeNames : List Name
  initialActivity : Option Name
  name_ne_empty : name ≠ []
  deriving DecidableEq, Repr

namespace ClassFact

/-- The initial activity, if the class names one. -/
def entry? (fact : ClassFact) : Option Name :=
  fact.initialActivity.filter (· ≠ [])

/-- Whether the class starts a flow. -/
def isEntryPoint (fact : ClassFact) : Bool :=
  fact.entry?.isSome

/-- The activity a flow of this class starts from: the initial activity, or the class itself. -/
def entry (fact : ClassFact) : Name :=
  fact.entry?.getD fact.name

/-- Where the class is declared, or its name if nothing is known. -/
def origin (fact : ClassFact) : Text :=
  (fact.sourceLocation.filter (· ≠ [])).getD fact.name

end ClassFact

/-- Whether a single target is given: a name that is not empty. -/
def isNamed (target : Option Name) : Bool :=
  target.any (· ≠ [])

/-- One way out of an activity. Either a single target is named or the fan-out has targets, and
not both. -/
structure Transition where
  target : Option Name
  condition : Option Text
  isFeatureFlagged : Bool
  featureFlagName : Option Text
  fanOutTargets : List Name
  single_xor_fanOut : isNamed target = fanOutTargets.isEmpty
  deriving DecidableEq, Repr

namespace Transition

/-- Whether the transition starts several activities at once. -/
def isFanOut (transition : Transition) : Bool :=
  !transition.fanOutTargets.isEmpty

/-- The activities the transition leads to, in order. -/
def targets (transition : Transition) : List Name :=
  if transition.isFanOut then transition.fanOutTargets else transition.target.toList

theorem targets_ne_nil (transition : Transition) : transition.targets ≠ [] := by
  have h := transition.single_xor_fanOut
  unfold targets isFanOut
  cases hf : transition.fanOutTargets with
  | cons first rest => simp
  | nil =>
    cases ht : transition.target with
    | some name => simp
    | none => simp [hf, ht, isNamed] at h

end Transition

/-- The transitions out of one activity, as one processor class declares them. -/
structure ProcessorFact where
  activity : Name
  processorName : Name
  transitions : List Transition
  createsManualTask : Bool
  completesFlow : Bool
  activity_ne_empty : activity ≠ []
  processorName_ne_empty : processorName ≠ []
  deriving DecidableEq, Repr

namespace ProcessorFact

/-- Whether some transition is guarded by a condition. -/
def hasConditions (processor : ProcessorFact) : Bool :=
  processor.transitions.any (·.condition.isSome)

/-- Whether the flow may end here: it is completed explicitly, or nothing follows. -/
def signalsCompletion (processor : ProcessorFact) : Bool :=
  processor.completesFlow || processor.transitions.isEmpty

end ProcessorFact

end FlowDiagram
