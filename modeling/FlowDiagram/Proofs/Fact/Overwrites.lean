import FlowDiagram.Proofs.Flow.Loading
import Mathlib.Data.List.Chain
import Mathlib.Data.List.Forall2
import Mathlib.Data.List.Induction

/-!
# Records of replaced facts

A fact takes the place of the fact before it that has the same key, and the record of it tells the
one and the other. So there is one record for each fact that is not the first of its key, in the
order of these facts, and the records of one key lead from its first fact to the one that is kept.

## Main definitions

* `repetitions`: the places of the facts that are not the first of their keys.
* `Replaces`: a record tells what the fact at a place has replaced.
* `RecordsOverwrites`: a table with records for some facts.
* `LeadsTo`: records that lead from one fact to another.

`FactIndex.recordsOverwrites_build` is the main result.
-/

namespace FlowDiagram

variable {α : Type} {key : α → Name} {describe : α → Text}

/-! ## What records tell -/

/-- The places of the facts that are not the first of their keys. -/
def repetitions (key : α → Name) (facts : List α) : List Nat :=
  (List.range facts.length).filter fun place =>
    facts[place]?.any fun fact => (facts.take place).any (key · = key fact)

/-- A record tells what the fact at a place has replaced: the last fact before it that has the same
key. -/
def Replaces (key : α → Name) (describe : α → Text) (facts : List α) (place : Nat)
    (record : Duplicate) : Prop :=
  ∃ before old fact after, facts = before ++ fact :: after ∧ before.length = place ∧
    winner? key before (key fact) = some old ∧ record = ⟨key fact, describe old, describe fact⟩

/-- The steps from each of some facts to the next one. -/
def successions (key : α → Name) (describe : α → Text) : List α → List Duplicate
  | old :: fact :: facts =>
    ⟨key fact, describe old, describe fact⟩ :: successions key describe (fact :: facts)
  | _ => []

/-- A table with records for some facts. Of the facts with one key the last one is kept, and each
fact that is not the first of its key has a record. -/
structure RecordsOverwrites (key : α → Name) (describe : α → Text) (facts : List α)
    (table : Table α) (records : List Duplicate) : Prop where
  /-- Under each key stands the last fact that has it. -/
  kept : ∀ name, table.get? name = winner? key facts name
  /-- Keys are in the order of their first appearance. -/
  keys : table.keys = distinct (facts.map key)
  /-- In order, the records tell what the facts have replaced that are not the first of their
  keys. -/
  matching : List.Forall₂ (Replaces key describe facts) (repetitions key facts) records
  /-- There are as many records as there are more facts than keys. -/
  count : records.length + table.keys.length = facts.length
  /-- The records of one key tell the steps from each of its facts to the next one. -/
  steps : ∀ name, records.filter (·.key = name) =
    successions key describe (facts.filter (key · = name))

/-- The records of one key are linked, start at the first of some facts, and end at the fact that is
kept. -/
structure LeadsTo (describe : α → Text) (facts : List α) (kept : Option α)
    (records : List Duplicate) : Prop where
  /-- What one record tells to be kept is what the next one tells to be replaced. -/
  linked : records.IsChain fun earlier later => earlier.kept = later.replaced
  starts : ∀ record ∈ records.head?, ∃ fact ∈ facts.head?, record.replaced = describe fact
  ends : ∀ record ∈ records.getLast?, ∃ fact ∈ kept, record.kept = describe fact

/-! ## Steps -/

theorem successions_concat (facts : List α) (fact : α) :
    successions key describe (facts ++ [fact]) =
      successions key describe facts ++
        FactIndex.overwrite describe (key fact) facts.getLast? fact := by
  induction facts with
  | nil => rfl
  | cons old facts ih =>
    cases facts with
    | nil => rfl
    | cons next facts =>
      rw [List.getLast?_cons_cons]
      exact congrArg (⟨key next, describe old, describe next⟩ :: ·) ih

/-- What a step leads to is what the next one starts from. -/
theorem isChain_successions (facts : List α) :
    (successions key describe facts).IsChain fun earlier later => earlier.kept = later.replaced := by
  fun_induction successions key describe facts with
  | case1 old fact facts ih =>
    cases facts with
    | nil => exact List.isChain_singleton _
    | cons next facts => exact List.isChain_cons_cons.mpr ⟨rfl, ih⟩
  | case2 => exact List.isChain_nil

/-- The steps from each of some facts to the next one lead from the first to the last. -/
theorem leadsTo_successions (facts : List α) :
    LeadsTo describe facts facts.getLast? (successions key describe facts) where
  linked := isChain_successions facts
  starts record hrecord := by
    match facts with
    | old :: fact :: facts =>
      obtain rfl := Option.some.inj hrecord
      exact ⟨old, rfl, rfl⟩
    | [_] => exact nomatch hrecord
    | [] => exact nomatch hrecord
  ends record hrecord := by
    induction facts using List.reverseRecOn with
    | nil => exact nomatch hrecord
    | append_singleton facts fact _ =>
      refine ⟨fact, List.getLast?_concat, ?_⟩
      rw [successions_concat] at hrecord
      cases hlast : facts.getLast? with
      | none =>
        rw [List.getLast?_eq_none_iff.mp hlast] at hrecord
        exact nomatch hrecord
      | some old =>
        rw [hlast, FactIndex.overwrite, List.getLast?_concat] at hrecord
        rw [← Option.some.inj hrecord]

/-! ## One more fact -/

theorem Table.keys_insert (table : Table α) (name : Text) (value : α) :
    (table.insert name value).keys =
      if name ∈ table.keys then table.keys else table.keys ++ [name] :=
  map_fst_insertRow name value table.rows

theorem isSome_winner?_iff {facts : List α} {name : Name} :
    (winner? key facts name).isSome = true ↔ name ∈ facts.map key := by
  rw [← Option.ne_none_iff_isSome, Ne, winner?_eq_none_iff, List.mem_map]
  push Not
  rfl

theorem filter_overwrite (name : Name) (previous : Option α) (fact : α) :
    (FactIndex.overwrite describe (key fact) previous fact).filter (·.key = name) =
      if key fact = name then FactIndex.overwrite describe (key fact) previous fact else [] := by
  cases previous with
  | none => simp [FactIndex.overwrite]
  | some old => by_cases hname : key fact = name <;> simp [FactIndex.overwrite, hname]

theorem repetitions_concat (facts : List α) (fact : α) :
    repetitions key (facts ++ [fact]) =
      repetitions key facts ++ if key fact ∈ facts.map key then [facts.length] else [] := by
  have hearlier : (List.range facts.length).filter (fun place =>
      (facts ++ [fact])[place]?.any fun fact' =>
        ((facts ++ [fact]).take place).any (key · = key fact')) = repetitions key facts := by
    refine List.filter_congr fun place hplace => ?_
    have hlt := List.mem_range.mp hplace
    rw [List.getElem?_append_left hlt, List.take_append_of_le_length (Nat.le_of_lt hlt)]
  have hlast : facts.any (key · = key fact) = decide (key fact ∈ facts.map key) := by
    rw [Bool.eq_iff_iff, List.any_eq_true, decide_eq_true_iff, List.mem_map]
    simp only [decide_eq_true_iff]
  rw [repetitions, List.length_append, List.length_singleton, List.range_succ, List.filter_append,
    hearlier]
  congr 1
  simp [List.filter_cons, hlast]

theorem Replaces.append {facts : List α} {place : Nat} {record : Duplicate}
    (h : Replaces key describe facts place record) (more : List α) :
    Replaces key describe (facts ++ more) place record := by
  obtain ⟨before, old, fact, after, rfl, hplace, hold, hrecord⟩ := h
  exact ⟨before, old, fact, after ++ more, by simp, hplace, hold, hrecord⟩

namespace RecordsOverwrites

variable {facts : List α} {table : Table α} {records : List Duplicate}

theorem empty : RecordsOverwrites key describe [] .empty [] where
  kept _ := rfl
  keys := rfl
  matching := .nil
  count := rfl
  steps _ := rfl

theorem mem_keys_iff (h : RecordsOverwrites key describe facts table records) {name : Name} :
    name ∈ table.keys ↔ name ∈ facts.map key := by
  rw [h.keys, mem_distinct]

/-- A table with records takes one more fact: the fact is put in the table, and a record is added if
another one stood there. -/
theorem concat (h : RecordsOverwrites key describe facts table records) (fact : α) :
    RecordsOverwrites key describe (facts ++ [fact]) (table.insert (key fact) fact)
      (records ++ FactIndex.overwrite describe (key fact) (table.get? (key fact)) fact) where
  kept name := by
    rw [Table.get?_insert, winner?_append, winner?_cons, h.kept]
    by_cases hname : name = key fact
    · simp [hname, winner?]
    · simp [hname, Ne.symm hname, winner?]
  keys := by
    rw [Table.keys_insert, List.map_append, List.map_singleton, distinct_concat]
    by_cases hmem : key fact ∈ facts.map key
    · rw [if_pos hmem, if_pos (h.mem_keys_iff.mpr hmem), h.keys]
    · rw [if_neg hmem, if_neg (mt h.mem_keys_iff.mp hmem), h.keys]
  matching := by
    have hmore := h.matching.imp fun _ _ hrecord => hrecord.append [fact]
    rw [repetitions_concat, h.kept]
    refine List.rel_append hmore ?_
    cases hwinner : winner? key facts (key fact) with
    | none =>
      have hnew : key fact ∉ facts.map key := by simp [← isSome_winner?_iff, hwinner]
      rw [if_neg hnew]
      exact .nil
    | some old =>
      have hmem : key fact ∈ facts.map key := by simp [← isSome_winner?_iff, hwinner]
      rw [if_pos hmem]
      exact .cons ⟨facts, old, fact, [], rfl, rfl, hwinner, rfl⟩ .nil
  count := by
    have hcount := h.count
    rw [Table.keys_insert, h.kept, List.length_append, List.length_append, List.length_singleton]
    cases hwinner : winner? key facts (key fact) with
    | none =>
      have hnew : key fact ∉ table.keys := by
        simp [h.mem_keys_iff, ← isSome_winner?_iff, hwinner]
      rw [if_neg hnew, List.length_append, FactIndex.overwrite]
      simp only [List.length_nil, List.length_singleton]
      omega
    | some old =>
      have hmem : key fact ∈ table.keys := by
        simp [h.mem_keys_iff, ← isSome_winner?_iff, hwinner]
      rw [if_pos hmem, FactIndex.overwrite, List.length_singleton]
      omega
  steps name := by
    rw [List.filter_append, List.filter_append, h.steps, filter_overwrite, h.kept]
    by_cases hname : key fact = name
    · subst hname
      have hown : [fact].filter (key · = key fact) = [fact] := by simp
      rw [if_pos rfl, hown, successions_concat, winner?]
    · have hown : [fact].filter (key · = name) = [] := by simp [hname]
      rw [if_neg hname, hown, List.append_nil, List.append_nil]

/-- The records of one key lead from its first fact to the one that is kept. -/
theorem leadsTo (h : RecordsOverwrites key describe facts table records) (name : Name) :
    LeadsTo describe (facts.filter (key · = name)) (table.get? name)
      (records.filter (·.key = name)) := by
  rw [h.steps, h.kept]
  exact leadsTo_successions _

end RecordsOverwrites

/-! ## Indexes -/

namespace FactIndex

theorem recordsOverwrites_foldl_addClass (classes : List ClassFact) :
    RecordsOverwrites ClassFact.name ClassFact.origin classes
      (classes.foldl addClass empty).classes (classes.foldl addClass empty).duplicateClasses := by
  induction classes using List.reverseRecOn with
  | nil => exact .empty
  | append_singleton classes fact ih =>
    rw [List.foldl_append, List.foldl_cons, List.foldl_nil]
    exact ih.concat fact

theorem recordsOverwrites_foldl_addProcessor {index : FactIndex}
    (hprocessors : index.processors = .empty) (hrecords : index.duplicateProcessors = [])
    (processors : List ProcessorFact) :
    RecordsOverwrites ProcessorFact.activity ProcessorFact.processorName processors
      (processors.foldl addProcessor index).processors
      (processors.foldl addProcessor index).duplicateProcessors := by
  induction processors using List.reverseRecOn with
  | nil =>
    rw [List.foldl_nil, hprocessors, hrecords]
    exact .empty
  | append_singleton processors fact ih =>
    rw [List.foldl_append, List.foldl_cons, List.foldl_nil]
    exact ih.concat fact

/-- Processors do not replace classes. -/
theorem recordsOverwrites_classes (classes : List ClassFact) (processors : List ProcessorFact) :
    RecordsOverwrites ClassFact.name ClassFact.origin classes (build classes processors).classes
      (build classes processors).duplicateClasses :=
  List.foldlRecOn processors addProcessor
    (motive := fun index => RecordsOverwrites ClassFact.name ClassFact.origin classes index.classes
      index.duplicateClasses)
    (recordsOverwrites_foldl_addClass classes) fun index
      (h : RecordsOverwrites _ _ classes index.classes index.duplicateClasses) _ _ => h

/-- Classes do not replace processors. -/
theorem recordsOverwrites_processors (classes : List ClassFact)
    (processors : List ProcessorFact) :
    RecordsOverwrites ProcessorFact.activity ProcessorFact.processorName processors
      (build classes processors).processors (build classes processors).duplicateProcessors := by
  obtain ⟨hprocessors, hrecords⟩ : (classes.foldl addClass empty).processors = .empty ∧
      (classes.foldl addClass empty).duplicateProcessors = [] :=
    List.foldlRecOn classes addClass
      (motive := fun index => index.processors = .empty ∧ index.duplicateProcessors = [])
      ⟨rfl, rfl⟩ fun index (h : index.processors = _ ∧ index.duplicateProcessors = _) _ _ => h
  exact recordsOverwrites_foldl_addProcessor hprocessors hrecords processors

/-- The index of any facts keeps the last fact of each key, with the keys in the order of their
first appearance, and records exactly what was replaced: one record for each fact that is not the
first of its key, in order, from the last fact before it with this key. The records of one key lead
from its first fact to the one that is kept. When facts are loaded, the index is that of the facts
in the files, one file after the other, and each of its records becomes one warning of the run,
those of classes first. -/
theorem recordsOverwrites_build :
    (∀ (classes : List ClassFact) (processors : List ProcessorFact),
      let index := build classes processors
      RecordsOverwrites ClassFact.name ClassFact.origin classes index.classes
          index.duplicateClasses ∧
        RecordsOverwrites ProcessorFact.activity ProcessorFact.processorName processors
          index.processors index.duplicateProcessors ∧
        ∀ name,
          LeadsTo ClassFact.origin (classes.filter (·.name = name)) (index.class? name)
              (index.duplicateClasses.filter (·.key = name)) ∧
            LeadsTo ProcessorFact.processorName (processors.filter (·.activity = name))
              (index.processor? name) (index.duplicateProcessors.filter (·.key = name))) ∧
      ∀ room disk root loaded, (loadIndex room disk root).answer = .ok loaded →
        (∃ files : List (Path × FactFile), loaded.files = files.map Prod.fst ∧
          (∀ entry ∈ files, FactFile.load room disk entry.1 = .ok entry.2) ∧
          loaded.index = build (files.flatMap fun entry => entry.2.classes)
            (files.flatMap fun entry => entry.2.processors)) ∧
          ∀ summary : RunSummary,
            (summary.afterLoading (loadIndex room disk root).answer).warnings =
              summary.warnings ++
                (loaded.index.duplicateClasses.map (Duplicate.describe "Class") ++
                  loaded.index.duplicateProcessors.map (Duplicate.describe "Activity")) := by
  refine ⟨fun classes processors => ?_, fun room disk root loaded hloaded => ?_⟩
  · have hclasses := recordsOverwrites_classes classes processors
    have hprocessors := recordsOverwrites_processors classes processors
    exact ⟨hclasses, hprocessors, fun name => ⟨hclasses.leadsTo name, hprocessors.leadsTo name⟩⟩
  · refine ⟨?_, fun summary => by rw [hloaded]; rfl⟩
    obtain ⟨files, -, hfiles, rfl⟩ := answer_loadIndex_eq_ok_iff.mp hloaded
    exact ⟨files, rfl, hfiles, by rw [classes_ofFiles, processors_ofFiles]⟩

/-- A class that is declared three times, and another one in between. -/
example :
    let declared (name : String) (place : Option Text) (h : Text.ofString name ≠ []) : ClassFact :=
      ⟨name, place, [], none, h⟩
    (build [declared "A" (some "a:1") (by decide), declared "B" none (by decide),
      declared "A" none (by decide), declared "A" (some "a:3") (by decide)] []).duplicateClasses =
        [⟨"A", "a:1", "A"⟩, ⟨"A", "A", "a:3"⟩] := by
  decide

end FactIndex

end FlowDiagram
