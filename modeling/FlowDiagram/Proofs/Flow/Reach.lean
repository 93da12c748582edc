import FlowDiagram.Flow.Generation
import FlowDiagram.Proofs.Diagram.Facts
import FlowDiagram.Proofs.Flow.Isolation
import FlowDiagram.Proofs.Graph.VisitOrder

/-!
# A flow depends on what it reaches

The processor of an activity is looked up when the activity is visited, and once more when it is
drawn. So the processors of other activities have no part in a flow: they can be added, changed and
removed, and the result of the flow stays what it is. The end of a flow is a node, too, and counts
among what is looked up as soon as it is reached.

## Main definitions

* `FactIndex.AgreeOn`: indexes that say the same about some activities.
* `FactIndex.without`: an index without the processor of an activity.

`generateFlow_congr_of_reached` is the main result.
-/

namespace FlowDiagram

/-! ## Indexes that agree -/

namespace FactIndex

/-- Two indexes find the same classes, and the same processors of some activities. -/
structure AgreeOn (activities : List Name) (index other : FactIndex) : Prop where
  class? : ∀ name, index.class? name = other.class? name
  processor? : ∀ activity ∈ activities, index.processor? activity = other.processor? activity

/-- The index without the processor of an activity. -/
def without (index : FactIndex) (activity : Name) : FactIndex :=
  { index with processors := ⟨index.processors.rows.filter (·.1 ≠ activity)⟩ }

variable {index : FactIndex} {activities : List Name}

theorem AgreeOn.createsManualTask_eq {other : FactIndex} (h : AgreeOn activities index other)
    {activity : Name} (hactivity : activity ∈ activities) :
    index.createsManualTask activity = other.createsManualTask activity := by
  rw [createsManualTask, createsManualTask, h.processor? activity hactivity]

/-- A processor is found under its own activity only. -/
theorem agreeOn_addProcessor {processor : ProcessorFact} (h : processor.activity ∉ activities) :
    AgreeOn activities index (index.addProcessor processor) where
  class? _ := rfl
  processor? activity hactivity := by
    have hne : activity ≠ processor.activity := fun heq => h (heq ▸ hactivity)
    rw [FactIndex.processor?, FactIndex.processor?, addProcessor, Table.get?_insert, if_neg hne]

/-- Only the row of one key is removed. -/
theorem lookup_filter_ne {α : Type} (rows : List (Name × α)) {name removed : Name}
    (h : name ≠ removed) : (rows.filter (·.1 ≠ removed)).lookup name = rows.lookup name := by
  induction rows with
  | nil => rfl
  | cons row rows ih =>
    obtain ⟨key, value⟩ := row
    by_cases hkey : key = removed
    · subst hkey
      have hb : (name == key) = false := by simpa using h
      rw [List.filter_cons_of_neg (by simp), ih, List.lookup_cons, hb]
    · rw [List.filter_cons_of_pos (by simpa using hkey), List.lookup_cons, List.lookup_cons, ih]

theorem agreeOn_without {removed : Name} (h : removed ∉ activities) :
    AgreeOn activities index (index.without removed) where
  class? _ := rfl
  processor? activity hactivity := by
    have hne : activity ≠ removed := fun heq => h (heq ▸ hactivity)
    exact (lookup_filter_ne index.processors.rows hne).symm

end FactIndex

/-! ## Walks and flows -/

open FactIndex (AgreeOn)

section

variable {index other : FactIndex}

/-- A walk is the same over an index that agrees on its nodes. -/
theorem Walk.along_congr_of_agreeOn {options : DrawingOptions} {entry : Name}
    (h : AgreeOn (along index options entry).nodes index other) :
    along index options entry = along other options entry := by
  have hprocessor : ∀ activity ∈ (along index options entry).visited,
      index.processor? activity = other.processor? activity := fun activity hactivity =>
    h.processor? activity (visited_subset_nodes _ hactivity)
  refine along_congr (fun activity hactivity => ?_) fun activity hactivity => ?_
  · rw [hprocessor activity hactivity]
  · rw [outgoing, outgoing, hprocessor activity hactivity]

/-- A flow comes to the same over an index that agrees on its nodes. -/
theorem generateFlow_congr_of_agreeOn (settings : FlowSettings) (outages : Outages)
    (fact : ClassFact)
    (h : AgreeOn (Walk.along index settings.drawing fact.entry).nodes index other) :
    generateFlow settings index outages fact = generateFlow settings other outages fact := by
  have hanalysis : FlowAnalysis.ofEntry settings.drawing index fact.entry =
      FlowAnalysis.ofEntry settings.drawing other fact.entry := by
    rw [FlowAnalysis.ofEntry, FlowAnalysis.ofEntry, Walk.along_congr_of_agreeOn h]
  let flow := (FlowAnalysis.ofEntry settings.drawing index fact.entry).flow fact.name
  have hdraw : flow.draw settings.drawing index = flow.draw settings.drawing other :=
    Flow.draw_congr (funext h.class?) _ fun _ hnode => h.createsManualTask_eq hnode
  have hdrawing : drawFlow settings index outages flow = drawFlow settings other outages flow := by
    rw [drawFlow, drawFlow, hdraw]
  rw [generateFlow, generateFlow, ← hanalysis, hdrawing]

end

/-- A flow depends on the classes and on the processors of its own nodes, whatever the other
processors of an index are. A processor can be added or changed, or it can be removed, without any
trace in the result and in what is reported, as long as the flow does not reach its activity. -/
theorem generateFlow_congr_of_reached (settings : FlowSettings) (index : FactIndex)
    (outages : Outages) (fact : ClassFact) :
    let nodes := (Walk.along index settings.drawing fact.entry).nodes
    (∀ other, AgreeOn nodes index other →
        generateFlow settings index outages fact = generateFlow settings other outages fact) ∧
      (∀ processor : ProcessorFact, processor.activity ∉ nodes →
        generateFlow settings (index.addProcessor processor) outages fact =
          generateFlow settings index outages fact) ∧
      ∀ activity ∉ nodes, generateFlow settings (index.without activity) outages fact =
        generateFlow settings index outages fact := by
  intro nodes
  refine ⟨fun other h => generateFlow_congr_of_agreeOn settings outages fact h,
    fun processor h => ?_, fun activity h => ?_⟩
  · exact (generateFlow_congr_of_agreeOn settings outages fact
      (FactIndex.agreeOn_addProcessor h)).symm
  · exact (generateFlow_congr_of_agreeOn settings outages fact
      (FactIndex.agreeOn_without h)).symm

/-! ## A flow that reaches no archive -/

/-- A class whose flow starts with a check. -/
def paymentClass : ClassFact :=
  classStarting "Payment" Walk.checkProcessor.activity (by decide)

/-- The archive ends a flow. -/
def archiveProcessor : ProcessorFact :=
  Walk.processorOf "Archive" [] (by decide)

theorem archive_not_mem_nodes :
    archiveProcessor.activity ∉
      (Walk.along Walk.paymentIndex .standard Walk.checkProcessor.activity).nodes := by
  intro hmem
  rcases Walk.mem_nodes hmem with hvisited | hend
  · rw [Walk.visited_payment] at hvisited
    exact absurd hvisited (by decide)
  · exact absurd hend (by decide)

/-- The payment is the same whether there is an archive or not. -/
theorem generateFlow_congr_of_reached_payment :
    let index := Walk.paymentIndex
    let other := index.addProcessor archiveProcessor
    AgreeOn (Walk.along index .standard paymentClass.entry).nodes index other ∧
      index.processor? archiveProcessor.activity ≠ other.processor? archiveProcessor.activity ∧
      generateFlow {} index [] paymentClass = generateFlow {} other [] paymentClass := by
  intro index other
  have hagree : AgreeOn (Walk.along index .standard paymentClass.entry).nodes index other :=
    FactIndex.agreeOn_addProcessor archive_not_mem_nodes
  exact ⟨hagree, by decide, (generateFlow_congr_of_reached {} index [] paymentClass).1 other hagree⟩

end FlowDiagram
