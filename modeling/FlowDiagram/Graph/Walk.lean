import FlowDiagram.Diagram.Condition
import FlowDiagram.Fact.Index
import FlowDiagram.Graph.Edge

/-!
# Walking a flow

From one activity on, a walk follows the transitions that the processors declare. It visits every
activity once, in the order of a pre-order walk: all edges out of an activity are taken first, then
their targets are visited in the order of their declaration. The names still to visit are kept in a
list, so deep flows are as good as shallow ones.

## Main definitions

* `Walk`: the edges and activities met on a walk.
* `edgesOf`: the edges out of one activity.
* `Walk.along`: the walk from an activity.
-/

namespace FlowDiagram

/-- The flag shown for a flagged transition whose flag has no name. -/
def defaultFlag : Text := "FEATURE"

/-- The label of the edges of a transition. A transition without condition is the other branch of
a processor that has conditions, unless it fans out. -/
def transitionLabel (options : DrawingOptions) (processor : ProcessorFact)
    (transition : Transition) : Text :=
  match transition.condition with
  | some condition => formatCondition options condition
  | none => if processor.hasConditions && !transition.isFanOut then elseLabel else []

/-- The feature flag of the edges of a transition. -/
def transitionFlag (transition : Transition) : Option Text :=
  if transition.isFeatureFlagged then
    some ((transition.featureFlagName.filter (· ≠ [])).getD defaultFlag)
  else none

/-- The edges of one transition, one per target. -/
def transitionEdges (options : DrawingOptions) (processor : ProcessorFact)
    (transition : Transition) : List Edge :=
  transition.targets.map fun target =>
    { source := processor.activity
      target
      label := transitionLabel options processor transition
      featureFlag := transitionFlag transition
      isFanOut := transition.isFanOut }

/-- The edges out of one activity: those of its transitions, then the one to the end. -/
def edgesOf (options : DrawingOptions) (processor : ProcessorFact) : List Edge :=
  processor.transitions.flatMap (transitionEdges options processor) ++
    if processor.signalsCompletion then [{ source := processor.activity, target := endNode }]
    else []

/-- What a walk has met: activities in the order of their visit, the ones without a processor
among them, and the edges out of the others. -/
structure Walk where
  entry : Name
  edges : List Edge := []
  visited : List Name := []
  missing : List Name := []
  reachesEnd : Bool := false
  deriving DecidableEq, Repr

namespace Walk

/-- The nodes of the flow: the activities, and the end if it is reached. -/
def nodes (walk : Walk) : List Name :=
  if walk.reachesEnd then walk.visited ++ [endNode] else walk.visited

/-- The walk after a visit to an activity without a processor. -/
def visitMissing (walk : Walk) (activity : Name) : Walk :=
  { walk with visited := walk.visited ++ [activity], missing := walk.missing ++ [activity] }

/-- The walk after a visit to an activity with the given edges. -/
def visit (walk : Walk) (activity : Name) (edges : List Edge) : Walk :=
  { walk with
    visited := walk.visited ++ [activity]
    edges := walk.edges ++ edges
    reachesEnd := walk.reachesEnd || edges.any (·.target = endNode) }

/-- The activities that edges lead to. -/
def activitiesAfter (edges : List Edge) : List Name :=
  (edges.filter (·.target ≠ endNode)).map (·.target)

/-- Visits the pending activities and all that follow them. -/
def continueFrom (index : FactIndex) (options : DrawingOptions) (walk : Walk) :
    List Name → Walk
  | [] => walk
  | activity :: pending =>
    if activity ∈ walk.visited then continueFrom index options walk pending
    else
      match _hprocessor : index.processor? activity with
      | none => continueFrom index options (walk.visitMissing activity) pending
      | some processor =>
        let edges := edgesOf options processor
        continueFrom index options (walk.visit activity edges) (activitiesAfter edges ++ pending)
termination_by pending =>
  ((unseen index.processors.keys walk.visited.contains).length, pending.length)
decreasing_by
  · exact Prod.Lex.right _ (Nat.lt_succ_self _)
  · rcases Nat.lt_or_eq_of_le
      (length_unseen_append_le index.processors.keys walk.visited activity) with hlt | heq
    · exact Prod.Lex.left _ _ hlt
    · simp only [visitMissing]
      rw [heq]
      exact Prod.Lex.right _ (Nat.lt_succ_self _)
  · rename_i hvisited
    exact Prod.Lex.left _ _
      (length_unseen_append_lt (Table.mem_keys_of_get? _hprocessor) hvisited)

/-- The walk from an activity. -/
def along (index : FactIndex) (options : DrawingOptions) (entry : Name) : Walk :=
  continueFrom index options { entry } [entry]

end Walk

end FlowDiagram
