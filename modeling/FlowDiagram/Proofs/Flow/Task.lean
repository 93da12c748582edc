import FlowDiagram.Flow.Task
import Mathlib.Data.List.Perm.Basic

/-!
# Tasks that are not refused

If telemetry refuses no report of a task, the task reports certain events and comes to a certain
answer. In a pool the workers may take any turns then: the events of all jobs are reported, in some
order, and the answers are those that the jobs come to one after the other.

## Main definitions

* `Task.events`, `Task.answer`: what a task comes to that is not refused.

`Task.run_of_observe_ok` and `Task.pool_of_answers` are the main results.
-/

namespace FlowDiagram

namespace Task

variable {α β : Type}

/-- The events of a task none of whose reports is refused. -/
def events : Task α → List Event
  | done _ => []
  | report event next => event :: (next (.ok ())).events

/-- The answer of a task none of whose reports is refused. -/
def answer : Task α → Except TelemetryError α
  | done answer => answer
  | report _ next => (next (.ok ())).answer

/-! ## One task after the other -/

@[simp]
theorem events_settle (task : Task α) (next : Except TelemetryError α → Task β) :
    (task.settle next).events = task.events ++ (next task.answer).events := by
  induction task with
  | done answer => rfl
  | report event onward ih => exact congrArg (event :: ·) (ih (.ok ()))

@[simp]
theorem answer_settle (task : Task α) (next : Except TelemetryError α → Task β) :
    (task.settle next).answer = (next task.answer).answer := by
  induction task with
  | done answer => rfl
  | report event onward ih => exact ih (.ok ())

section

variable {task : Task α} {value : α} (h : task.answer = .ok value) (next : α → Task β)

include h

theorem events_andThen : (task.andThen next).events = task.events ++ (next value).events := by
  rw [andThen, events_settle, h]

theorem answer_andThen : (task.andThen next).answer = (next value).answer := by
  rw [andThen, answer_settle, h]

end

@[simp]
theorem events_map (f : α → β) (task : Task α) : (task.map f).events = task.events :=
  (events_settle _ _).trans (List.append_nil _)

@[simp]
theorem answer_map (f : α → β) (task : Task α) : (task.map f).answer = task.answer.map f :=
  answer_settle _ _

@[simp]
theorem events_reports (events : List Event) : (reports events).events = events := by
  induction events with
  | nil => rfl
  | cons event events ih => exact congrArg (event :: ·) ih

@[simp]
theorem answer_reports (events : List Event) : (reports events).answer = .ok () := by
  induction events with
  | nil => rfl
  | cons event events ih => exact ih

/-- Tasks of which none is refused are all done. -/
theorem inOrder_of_answers {tasks : List (Task α)} {values : List α}
    (h : tasks.map answer = values.map .ok) :
    (inOrder tasks).events = tasks.flatMap events ∧ (inOrder tasks).answer = .ok values := by
  induction tasks generalizing values with
  | nil =>
    rw [List.map_eq_nil_iff.mp h.symm]
    exact ⟨rfl, rfl⟩
  | cons task tasks ih =>
    obtain ⟨value, values, rfl, hvalue, hvalues⟩ := List.map_eq_cons_iff.mp h.symm
    obtain ⟨hevents, hanswer⟩ := ih hvalues.symm
    rw [inOrder, events_andThen hvalue.symm, answer_andThen hvalue.symm, events_map, answer_map,
      hevents, hanswer]
    exact ⟨rfl, rfl⟩

/-- A task none of whose events is refused makes of telemetry what its events make of it. -/
theorem run_of_observe_ok {task : Task α} {state : TelemetryState}
    (h : (Telemetry.observe state task.events).answer = .ok ()) :
    task.run state =
      ⟨(Telemetry.observe state task.events).state, (Telemetry.observe state task.events).lines,
        task.answer⟩ := by
  induction task generalizing state with
  | done answer => rfl
  | report event next ih =>
    rw [events, Telemetry.observe] at h ⊢
    rw [run]
    dsimp only at h ⊢
    cases hreported : (Telemetry.observeOne state event).answer with
    | error e =>
      rw [hreported] at h
      exact nomatch h
    | ok u =>
      rw [hreported] at h
      rw [ih (.ok ()) h]
      rfl

/-! ## Pools -/

/-- A turn in which the next report of a job is made: the event is no longer to come, and all jobs
come to the same answers as before. -/
theorem nextReport?_eq_some {jobs : List (Job α)} {place : Nat} {event : Event}
    {next : Except TelemetryError Unit → List (Job α)}
    (h : nextReport? jobs place = some (event, next)) :
    (next (.ok ())).map (·.task.answer) = jobs.map (·.task.answer) ∧
      (jobs.flatMap (·.task.events)).Perm
        (event :: (next (.ok ())).flatMap (·.task.events)) := by
  induction jobs generalizing place next with
  | nil => simp [nextReport?] at h
  | cons job jobs ih =>
    -- The job stays as it is, and the report is one of a later job.
    have of_later {place : Nat}
        (h : (nextReport? jobs place).map
          (fun found => (found.1, fun answer => job :: found.2 answer)) = some (event, next)) :
        (next (.ok ())).map (·.task.answer) = (job :: jobs).map (·.task.answer) ∧
          ((job :: jobs).flatMap (·.task.events)).Perm
            (event :: (next (.ok ())).flatMap (·.task.events)) := by
      obtain ⟨⟨reported, onward⟩, honward, heq⟩ := Option.map_eq_some_iff.mp h
      obtain ⟨rfl, rfl⟩ := Prod.mk.inj heq
      obtain ⟨hanswers, hevents⟩ := ih honward
      exact ⟨congrArg (job.task.answer :: ·) hanswers,
        (hevents.append_left job.task.events).trans List.perm_middle⟩
    obtain ⟨task, hasBegun⟩ := job
    cases task with
    | done answer => exact of_later h
    | report first onward =>
      cases place with
      | zero =>
        obtain ⟨rfl, rfl⟩ := Prod.mk.inj (Option.some.inj h)
        exact ⟨rfl, .refl _⟩
      | succ place => exact of_later h

section

variable {jobs : List (Job α)} {values : List α}
  (h : jobs.map (·.task.answer) = values.map .ok)

include h

theorem isRefused_eq_false : isRefused jobs = false := by
  induction jobs generalizing values with
  | nil => rfl
  | cons job jobs ih =>
    obtain ⟨value, values, rfl, hvalue, hvalues⟩ := List.map_eq_cons_iff.mp h.symm
    obtain ⟨task, hasBegun⟩ := job
    cases task with
    | done answer =>
      rw [isRefused, show answer = .ok value from hvalue.symm]
      exact ih hvalues.symm
    | report event next => rfl

theorem answer_finish : (finish jobs).answer = .ok values := by
  induction jobs generalizing values with
  | nil =>
    rw [List.map_eq_nil_iff.mp h.symm]
    rfl
  | cons job jobs ih =>
    obtain ⟨value, values, rfl, hvalue, hvalues⟩ := List.map_eq_cons_iff.mp h.symm
    rw [finish, answer_settle, answer_settle, show job.task.answer = _ from hvalue.symm,
      ih hvalues.symm]
    rfl

end

theorem events_finish (jobs : List (Job α)) :
    (finish jobs).events = jobs.flatMap (·.task.events) := by
  induction jobs with
  | nil => rfl
  | cons job jobs ih =>
    rw [finish, events_settle, events_settle, ih, List.flatMap_cons]
    exact congrArg (job.task.events ++ ·) (List.append_nil _)

/-- Whatever turns the workers take, a pool none of whose jobs is refused reports the events of all
jobs and comes to the answers of all jobs, in their order. -/
theorem pool_of_answers (workers : Nat) (turns : List Turn) {jobs : List (Job α)} {values : List α}
    (h : jobs.map (·.task.answer) = values.map .ok) :
    (pool workers turns jobs).events.Perm (jobs.flatMap (·.task.events)) ∧
      (pool workers turns jobs).answer = .ok values := by
  induction turns generalizing jobs with
  | nil => exact ⟨.of_eq (events_finish jobs), answer_finish h⟩
  | cons turn turns ih =>
    cases turn with
    | callOff place =>
      rw [pool, isRefused_eq_false h]
      exact ih h
    | work place =>
      rw [pool]
      split
      · exact ih h
      · rename_i event next hnext
        obtain ⟨hanswers, hevents⟩ := nextReport?_eq_some (Option.ite_none_right_eq_some.mp hnext).2
        obtain ⟨hrest, hanswer⟩ := ih (hanswers.trans h)
        exact ⟨(hrest.cons event).trans hevents.symm, hanswer⟩

/-- The second worker comes first, and then the other one has both of its reports made. -/
example :
    (pool 2 [.work 1, .work 0] [⟨reports [.count "a", .span], false⟩, ⟨reports [.count "b"], false⟩]
      ).events = [.count "b", .count "a", .span] :=
  rfl

end Task

end FlowDiagram
