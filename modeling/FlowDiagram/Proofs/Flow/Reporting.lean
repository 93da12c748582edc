import FlowDiagram.Flow.Reporting
import FlowDiagram.Proofs.Flow.Task

/-!
# Reports that are not refused

Flows are generated as if nobody took notice of it, unless telemetry refuses one of their reports.
Then the results are those of the same flows without telemetry, and the reports are the events of
all flows: one flow after the other, or, if they are generated by a pool, in an order that depends
on the turns of its workers.

`allTask_granted` and `runTask_granted` are the main results.
-/

namespace FlowDiagram

section

variable (settings : FlowSettings) (index : FactIndex) (outages : Outages) (turns : List Turn)

/-- A flow is generated as it is without telemetry. -/
theorem flowTask_granted (fact : ClassFact) :
    (flowTask settings index outages fact).events =
        (generateFlow settings index outages fact).2 ∧
      (flowTask settings index outages fact).answer =
        .ok (generateFlow settings index outages fact).1 := by
  rw [flowTask, generateFlow]
  simp only [Task.events_settle, Task.answer_settle, Task.events_reports, Task.answer_reports]
  cases drawFlow settings index outages
      ((FlowAnalysis.ofEntry settings.drawing index fact.entry).flow fact.name) <;>
    exact ⟨rfl, rfl⟩

/-- So are flows one after the other, and flows that are generated by a pool. -/
theorem flowsTask_granted (facts : List ClassFact) :
    (flowsTask settings index outages turns facts).events.Perm
        (facts.flatMap fun fact => (generateFlow settings index outages fact).2) ∧
      (flowsTask settings index outages turns facts).answer =
        .ok (facts.map fun fact => (generateFlow settings index outages fact).1) := by
  have hanswers : (facts.map (flowTask settings index outages)).map Task.answer =
      (facts.map fun fact => (generateFlow settings index outages fact).1).map .ok := by
    rw [List.map_map, List.map_map]
    exact List.map_congr_left fun fact _ => (flowTask_granted settings index outages fact).2
  have hevents : (facts.map (flowTask settings index outages)).flatMap Task.events =
      facts.flatMap fun fact => (generateFlow settings index outages fact).2 := by
    rw [List.flatMap_map]
    exact List.flatMap_congr fun fact _ => (flowTask_granted settings index outages fact).1
  rw [flowsTask]
  split
  · have hjobs : ((facts.map (flowTask settings index outages)).map fun task =>
        ({ task } : Job FlowResult)).map (·.task.answer) = _ := (List.map_map ..).trans hanswers
    obtain ⟨hperm, hanswer⟩ := Task.pool_of_answers settings.workers turns hjobs
    refine ⟨hperm.trans (.of_eq ?_), hanswer⟩
    rw [List.flatMap_map]
    exact hevents
  · obtain ⟨hinOrder, hanswer⟩ := Task.inOrder_of_answers hanswers
    exact ⟨.of_eq (hinOrder.trans hevents), hanswer⟩

/-- All flows are generated as they are without telemetry. -/
theorem allTask_granted (entries : Option (List ClassFact)) :
    (allTask settings index outages turns entries).events.Perm
        (generateAll settings index outages entries).2 ∧
      (allTask settings index outages turns entries).answer =
        .ok (generateAll settings index outages entries).1 := by
  obtain ⟨hperm, hanswer⟩ :=
    flowsTask_granted settings index outages turns (selectEntries settings index entries)
  have hnoticed (notice : List Event) : (Task.reports notice).answer = .ok () :=
    Task.answer_reports notice
  rw [allTask, generateAll]
  simp only [Task.events_settle, Task.answer_settle, Task.events_andThen (hnoticed _),
    Task.answer_andThen (hnoticed _), Task.events_reports, hanswer, Task.events_map,
    Task.answer_map, Task.answer_reports, List.flatMap_map, List.map_map]
  exact ⟨(hperm.append_left _).append_right _, rfl⟩

/-- A run is as it is without telemetry. -/
theorem runTask_granted (room : Nat) (disk : Disk) (root : Path) :
    (runTask settings room disk outages turns root).events.Perm
        (run settings room disk outages root).events ∧
      (runTask settings room disk outages turns root).answer =
        .ok (run settings room disk outages root).answer := by
  have hloaded := Task.answer_reports (loadIndex room disk root).events
  rw [runTask, run]
  simp only [Task.events_andThen hloaded, Task.answer_andThen hloaded, Task.events_reports]
  cases (loadIndex room disk root).answer with
  | error e => exact ⟨.of_eq (List.append_nil _), rfl⟩
  | ok loaded =>
    obtain ⟨hperm, hanswer⟩ := allTask_granted settings loaded.index outages turns none
    simp only [Task.events_andThen hanswer, Task.answer_andThen hanswer, Task.events_map,
      Task.answer_map, Task.events_reports, Task.answer_reports, List.append_assoc]
    exact ⟨(hperm.append_right _).append_left _, rfl⟩

end

end FlowDiagram
