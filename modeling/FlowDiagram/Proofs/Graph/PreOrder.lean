import FlowDiagram.Proofs.Graph.Reachability

/-!
# A walk is a recursive pre-order walk

The same flow is walked twice. The recursion visits one activity: it marks it, emits the edges out
of it, and visits what they lead to before it returns. The loop keeps a list of what is pending,
where a name may stand long after it was visited. Every pending name stands for a call of the
recursion that is still to come, so no turn of the loop changes what the calls will have recorded
in the end.

## Main definitions

* `PreOrder.Record`: the activities marked and the edges emitted so far.
* `PreOrder.visit`, `PreOrder.visitTargets`: the recursion.
* `PreOrder.visitAll`: the calls that pending names stand for.

`Walk.preOrder_along` is the main result.
-/

namespace FlowDiagram

open Relation

namespace PreOrder

/-- What a recursive walk has recorded: the activities it marked and the edges it emitted. -/
structure Record where
  visited : List Name := []
  edges : List Edge := []

/-- Marks an activity and emits the edges out of it. -/
def Record.mark (record : Record) (activity : Name) (edges : List Edge) : Record :=
  { visited := record.visited ++ [activity], edges := record.edges ++ edges }

theorem Record.subset_mark (record : Record) (activity : Name) (edges : List Edge) :
    record.visited ⊆ (record.mark activity edges).visited :=
  List.subset_append_left _ _

/-- How many processors belong to activities that are not marked. -/
def unmarked (index : FactIndex) (record : Record) : Nat :=
  (unseen index.processors.keys record.visited.contains).length

theorem unmarked_le (index : FactIndex) {before after : Record}
    (h : before.visited ⊆ after.visited) : unmarked index after ≤ unmarked index before :=
  length_unseen_le _ fun _ hname =>
    List.contains_iff_mem.mpr (h (List.contains_iff_mem.mp hname))

theorem unmarked_mark_lt {index : FactIndex} {record : Record} {activity : Name}
    {processor : ProcessorFact} (hprocessor : index.processor? activity = some processor)
    (h : activity ∉ record.visited) (edges : List Edge) :
    unmarked index (record.mark activity edges) < unmarked index record :=
  length_unseen_append_lt (Table.mem_keys_of_get? hprocessor) h

-- The results say that marks are never taken back: the recursion over the targets ends for that.
mutual

/-- Visits an activity, unless it is marked: marks it, emits the edges that its processor declares
and visits their targets. -/
def visit (index : FactIndex) (options : DrawingOptions) (before : Record) (activity : Name) :
    { after : Record // before.visited ⊆ after.visited } :=
  if _hmarked : activity ∈ before.visited then ⟨before, List.Subset.refl _⟩
  else
    match _hprocessor : index.processor? activity with
    | none => ⟨before.mark activity [], before.subset_mark activity []⟩
    | some processor =>
      let edges := edgesOf options processor
      let after := visitTargets index options (before.mark activity edges) edges
      ⟨after.val, List.Subset.trans (before.subset_mark activity edges) after.property⟩
termination_by (unmarked index before, 0)
decreasing_by exact Prod.Lex.left _ _ (unmarked_mark_lt _hprocessor _hmarked _)

/-- Visits the targets of edges one after the other. The end of the flow is not visited. -/
def visitTargets (index : FactIndex) (options : DrawingOptions) (before : Record) :
    List Edge → { after : Record // before.visited ⊆ after.visited }
  | [] => ⟨before, List.Subset.refl _⟩
  | edge :: edges =>
    if edge.target = endNode then visitTargets index options before edges
    else
      let middle := visit index options before edge.target
      let after := visitTargets index options middle.val edges
      ⟨after.val, List.Subset.trans middle.property after.property⟩
termination_by edges => (unmarked index before, edges.length + 1)
decreasing_by
  · exact Prod.Lex.right _ (Nat.lt_succ_self _)
  · exact Prod.Lex.right _ (Nat.zero_lt_succ _)
  · rcases Nat.lt_or_eq_of_le (unmarked_le index middle.property) with hlt | heq
    · exact Prod.Lex.left _ _ hlt
    · rw [heq]
      exact Prod.Lex.right _ (Nat.lt_succ_self _)

end

/-- Visits activities one after the other. -/
def visitAll (index : FactIndex) (options : DrawingOptions) (before : Record)
    (activities : List Name) : Record :=
  activities.foldl (fun record activity => (visit index options record activity).val) before

section Visit

variable {index : FactIndex} {options : DrawingOptions} (before : Record) {activity : Name}

theorem visit_of_mem (h : activity ∈ before.visited) :
    (visit index options before activity).val = before := by
  rw [visit, dif_pos h]

theorem visit_of_none (h : activity ∉ before.visited) (hnone : index.processor? activity = none) :
    (visit index options before activity).val = before.mark activity [] := by
  rw [visit, dif_neg h]
  split
  · rfl
  · rename_i processor hsome
    exact absurd (hnone.symm.trans hsome) (Option.some_ne_none processor).symm

theorem visitTargets_eq (edges : List Edge) :
    (visitTargets index options before edges).val =
      visitAll index options before (Walk.activitiesAfter edges) := by
  induction edges generalizing before with
  | nil => rw [visitTargets]; rfl
  | cons edge edges ih =>
    rw [visitTargets]
    by_cases hend : edge.target = endNode
    · rw [if_pos hend, ih, Walk.activitiesAfter, Walk.activitiesAfter,
        List.filter_cons_of_neg (by simpa using hend)]
    · rw [if_neg hend, Walk.activitiesAfter, List.filter_cons_of_pos (by simpa using hend)]
      exact ih _

theorem visit_of_some (h : activity ∉ before.visited) {processor : ProcessorFact}
    (hsome : index.processor? activity = some processor) :
    (visit index options before activity).val =
      visitAll index options (before.mark activity (edgesOf options processor))
        (Walk.activitiesAfter (edgesOf options processor)) := by
  rw [visit, dif_neg h]
  split
  · rename_i hnone
    exact absurd (hnone.symm.trans hsome) (Option.some_ne_none processor).symm
  · rename_i other hother
    obtain rfl := Option.some.inj (hother.symm.trans hsome)
    exact visitTargets_eq _ _

end Visit

end PreOrder

namespace Walk

open PreOrder (Record)

/-- What a walk has recorded of the activities it visited. -/
def record (walk : Walk) : Record :=
  { visited := walk.visited, edges := walk.edges }

variable {index : FactIndex} {options : DrawingOptions}

/-- Where a walk ends is what the pending activities, visited one after the other, would record. -/
theorem record_continueFrom (walk : Walk) (pending : List Name) :
    (continueFrom index options walk pending).record =
      PreOrder.visitAll index options walk.record pending := by
  fun_induction continueFrom index options walk pending with
  | case1 walk => rfl
  | case2 walk activity pending hvisited ih =>
    rw [ih, PreOrder.visitAll, PreOrder.visitAll, List.foldl_cons,
      PreOrder.visit_of_mem walk.record hvisited]
  | case3 walk activity pending hvisited hnone ih =>
    have hmark : (walk.visitMissing activity).record = walk.record.mark activity [] := by
      simp [record, visitMissing, Record.mark]
    rw [ih, PreOrder.visitAll, PreOrder.visitAll, List.foldl_cons,
      PreOrder.visit_of_none walk.record hvisited hnone, hmark]
  | case4 walk activity pending hvisited processor hsome edges ih =>
    rw [ih, PreOrder.visitAll, PreOrder.visitAll, List.foldl_cons, List.foldl_append,
      PreOrder.visit_of_some walk.record hvisited hsome]
    rfl

/-- No turn of the loop changes what the pending activities will have recorded. -/
theorem visitAll_of_turns {state next : Walk × List Name}
    (h : ReflTransGen (Turn index options) state next) :
    PreOrder.visitAll index options next.1.record next.2 =
      PreOrder.visitAll index options state.1.record state.2 := by
  induction h with
  | refl => rfl
  | tail _ hturn ih =>
    rw [← ih, ← record_continueFrom, ← record_continueFrom, continueFrom_turn hturn]

/-- The loop visits the activities, and takes their edges, in the order of the recursion that marks
an activity, emits the edges out of it as its processor declares them, and then visits their targets
one after the other. It does so at every turn: pending activities, visited or not, stand for calls
of the recursion that are still to come. -/
theorem preOrder_along (index : FactIndex) (options : DrawingOptions) (entry : Name) :
    let recursive := (PreOrder.visit index options {} entry).val
    (∀ walk pending,
        ReflTransGen (Turn index options) ({ entry }, [entry]) (walk, pending) →
          PreOrder.visitAll index options walk.record pending = recursive) ∧
      (∀ walk, ReflTransGen (Turn index options) ({ entry }, [entry]) (walk, []) ↔
        walk = along index options entry) ∧
      (along index options entry).visited = recursive.visited ∧
      (along index options entry).edges = recursive.edges ∧
      ∀ processor, Outbound options processor (edgesOf options processor) := by
  intro recursive
  have hstart : PreOrder.visitAll index options ({ entry } : Walk).record [entry] = recursive := rfl
  have hend : (along index options entry).record = recursive :=
    (record_continueFrom { entry } [entry]).trans hstart
  refine ⟨fun walk pending h => (visitAll_of_turns h).trans hstart, fun _ => turns_iff, ?_, ?_,
    outbound_edgesOf options⟩
  · exact congrArg Record.visited hend
  · exact congrArg Record.edges hend

end Walk

end FlowDiagram
