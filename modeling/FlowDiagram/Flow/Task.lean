import FlowDiagram.Telemetry.State

/-!
# Tasks

A task reports events on its way to an answer. Telemetry may refuse a report, and the task goes on
with what it is told. Tasks are done one after the other, or by the workers of a pool, who take
turns.

The workers of a pool share telemetry, and a report is one step of theirs: once telemetry has
started, its log and its metrics may be used by several workers at a time. The start itself is no
such step. Nothing keeps two workers from starting telemetry twice if they are the first to use it,
so what a pool makes of telemetry that has not started is not told here.

## Main definitions

* `Task`: something that reports events.
* `Task.run`: what a task makes of telemetry.
* `Task.inOrder`: tasks that are done one after the other.
* `Task.pool`: tasks that are done by a pool.
-/

namespace FlowDiagram

/-- Something that reports events on its way to an answer, and goes on with what telemetry answers
to each of them. -/
inductive Task (α : Type)
  | done (answer : Except TelemetryError α)
  | report (event : Event) (next : Except TelemetryError Unit → Task α)

/-- A task that a pool works at, and whether it has begun. -/
structure Job (α : Type) where
  task : Task α
  hasBegun : Bool := false

/-- A turn in a pool: a worker makes the next report of a job, where only jobs that are not done are
counted, or a job is called off. -/
inductive Turn
  | work (place : Nat)
  | callOff (place : Nat)

namespace Task

variable {α β : Type}

/-! ## One task after the other -/

/-- What comes next, whatever the first task has answered. -/
def settle (task : Task α) (next : Except TelemetryError α → Task β) : Task β :=
  match task with
  | done answer => next answer
  | report event onward => report event fun answer => (onward answer).settle next

/-- What comes next, unless the first task was refused. -/
def andThen (task : Task α) (next : α → Task β) : Task β :=
  task.settle fun answer =>
    match answer with
    | .error e => done (.error e)
    | .ok value => next value

/-- The same task with another answer. -/
def map (f : α → β) (task : Task α) : Task β :=
  task.settle fun answer => done (answer.map f)

/-- Reports events, one after the other, up to one that is refused. -/
def reports : List Event → Task Unit
  | [] => done (.ok ())
  | event :: events => report event fun answer =>
    match answer with
    | .error e => done (.error e)
    | .ok () => reports events

/-- Does tasks one after the other, up to one that is refused. -/
def inOrder : List (Task α) → Task (List α)
  | [] => done (.ok [])
  | task :: tasks => task.andThen fun value => (inOrder tasks).map (value :: ·)

/-- What a task makes of telemetry. -/
def run (task : Task α) (state : TelemetryState) : Observed α :=
  match task with
  | done answer => ⟨state, [], answer⟩
  | report event next =>
    let reported := Telemetry.observeOne state event
    let rest := (next reported.answer).run reported.state
    ⟨rest.state, reported.lines ++ rest.lines, rest.answer⟩

/-! ## Pools -/

/-- The next report of the job at a place among those that are not done, and the jobs after it was
answered. -/
def nextReport? : List (Job α) → Nat →
    Option (Event × (Except TelemetryError Unit → List (Job α)))
  | [], _ => none
  | job :: jobs, place =>
    let later (place : Nat) :=
      (nextReport? jobs place).map fun (event, next) => (event, fun answer => job :: next answer)
    match job.task, place with
    | done _, place => later place
    | report _ _, place + 1 => later place
    | report event next, 0 => some (event, fun answer => ⟨next answer, true⟩ :: jobs)

/-- Whether the answers, taken in the order of the jobs, have come to one that was refused. -/
def isRefused : List (Job α) → Bool
  | [] => false
  | job :: jobs =>
    match job.task with
    | done (.ok _) => isRefused jobs
    | done (.error _) => true
    | report _ _ => false

/-- Calls off the job at a place, unless it has begun. -/
def callOff (jobs : List (Job α)) (place : Nat) : List (Job α) :=
  if jobs[place]?.any (!·.hasBegun) then jobs.eraseIdx place else jobs

/-- Does what is left of all jobs, whatever becomes of the others. The first refusal counts. -/
def finish : List (Job α) → Task (List α)
  | [] => done (.ok [])
  | job :: jobs => job.task.settle fun answer => (finish jobs).settle fun answers =>
    done do return (← answer) :: (← answers)

/-- Has jobs done by workers who take turns. The workers take up the jobs in their order, so that
they are at the first ones that are not done, at as many as there are workers. Jobs that have not
begun may be called off when one has been refused and those before it are done. What is left after
all turns is done in the order of the jobs. -/
def pool (workers : Nat) : List Turn → List (Job α) → Task (List α)
  | [], jobs => finish jobs
  | .work place :: turns, jobs =>
    match if place < workers then nextReport? jobs place else none with
    | none => pool workers turns jobs
    | some (event, next) => report event fun answer => pool workers turns (next answer)
  | .callOff place :: turns, jobs =>
    pool workers turns (if isRefused jobs then callOff jobs place else jobs)

end Task

end FlowDiagram
