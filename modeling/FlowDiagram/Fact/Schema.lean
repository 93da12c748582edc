import FlowDiagram.Fact.Basic
import FlowDiagram.Schema.Field

/-!
# The fact file format

A fact file is a JSON object with the lists `classes` and `processors`. The fields of a fact may
be spelled in camel case or in snake case; unknown fields are ignored. Every flaw is counted, in
the order of the fields.

## Main definitions

* `FactFile`: the facts of one file.
* `FactFile.ofJson`: the facts that a JSON value states.
-/

namespace FlowDiagram

open Schema

/-- The facts of one file, in order. -/
structure FactFile where
  classes : List ClassFact
  processors : List ProcessorFact

/-- The fields of a class. -/
def ClassFact.nameField : FieldName := .plain "name"
def ClassFact.sourceLocationField : FieldName := ⟨"sourceLocation", "source_location"⟩
def ClassFact.supertypeNamesField : FieldName := ⟨"supertypeNames", "supertype_names"⟩
def ClassFact.initialActivityField : FieldName :=
  ⟨"initialActivityName", "initial_activity_name"⟩

/-- Reads a class from the members of its object. -/
def ClassFact.ofMembers (members : List (Text × Json)) : Checked ClassFact :=
  (Checked.both (required nameField nonEmptyText members)
    (Checked.both (optional sourceLocationField none nullableText members)
      (Checked.both (optional supertypeNamesField [] (listOf text) members)
        (optional initialActivityField none nullableText members)))).map
    fun (name, sourceLocation, supertypeNames, initialActivity) =>
      { name := name.val, sourceLocation, supertypeNames, initialActivity,
        name_ne_empty := name.property }

/-- The fields of a transition. -/
def Transition.targetField : FieldName := ⟨"targetActivityName", "target_activity_name"⟩
def Transition.conditionField : FieldName := .plain "condition"
def Transition.isFeatureFlaggedField : FieldName := ⟨"isFeatureFlagged", "is_feature_flagged"⟩
def Transition.featureFlagNameField : FieldName := ⟨"featureFlagName", "feature_flag_name"⟩
def Transition.fanOutTargetsField : FieldName := ⟨"fanOutTargets", "fan_out_targets"⟩

/-- Reads a transition from the members of its object. Its targets are checked once all fields
are valid. -/
def Transition.ofMembers (members : List (Text × Json)) : Checked Transition :=
  (Checked.both (optional targetField none nullableText members)
    (Checked.both (optional conditionField none nullableText members)
      (Checked.both (optional isFeatureFlaggedField false boolean members)
        (Checked.both (optional featureFlagNameField none nullableText members)
          (optional fanOutTargetsField [] (listOf text) members))))).andThen
    fun (target, condition, isFeatureFlagged, featureFlagName, fanOutTargets) =>
      if h : isNamed target = fanOutTargets.isEmpty then
        .valid { target, condition, isFeatureFlagged, featureFlagName, fanOutTargets,
                 single_xor_fanOut := h }
      else if isNamed target then .fail .singleAndFanOut else .fail .noTarget

/-- The fields of a processor. -/
def ProcessorFact.activityField : FieldName :=
  ⟨"processedActivityName", "processed_activity_name"⟩
def ProcessorFact.processorNameField : FieldName := ⟨"processorName", "processor_name"⟩
def ProcessorFact.transitionsField : FieldName := .plain "transitions"
def ProcessorFact.createsManualTaskField : FieldName := ⟨"createsManualTask", "creates_manual_task"⟩
def ProcessorFact.completesFlowField : FieldName := ⟨"completesFlow", "completes_flow"⟩

/-- Reads a processor from the members of its object. -/
def ProcessorFact.ofMembers (members : List (Text × Json)) : Checked ProcessorFact :=
  (Checked.both (required activityField nonEmptyText members)
    (Checked.both (required processorNameField nonEmptyText members)
      (Checked.both
        (optional transitionsField [] (listOf (record "Transition" Transition.ofMembers)) members)
        (Checked.both (optional createsManualTaskField false boolean members)
          (optional completesFlowField false boolean members))))).map
    fun (activity, processorName, transitions, createsManualTask, completesFlow) =>
      { activity := activity.val, processorName := processorName.val, transitions,
        createsManualTask, completesFlow,
        activity_ne_empty := activity.property,
        processorName_ne_empty := processorName.property }

namespace FactFile

/-- Reads the facts from the members of a file's object. -/
def ofMembers (members : List (Text × Json)) : Checked FactFile :=
  (Checked.both
    (optional (.plain "classes") [] (listOf (record "ClassFact" ClassFact.ofMembers)) members)
    (optional (.plain "processors") []
      (listOf (record "ProcessorFact" ProcessorFact.ofMembers)) members)).map
    fun (classes, processors) => { classes, processors }

/-- The facts that a JSON value states. -/
def ofJson (json : Json) : Checked FactFile :=
  record "FactFile" ofMembers json

end FactFile

end FlowDiagram
