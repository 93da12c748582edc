import FlowDiagram.Fact.Basic
import FlowDiagram.Fact.Table
import FlowDiagram.Sequence.Unseen
import FlowDiagram.Text.Edit

/-!
# The fact index

Facts are looked up by class name and by the activity a processor works on. Where two facts claim
one key the later one wins; every such overwrite is recorded.

## Main definitions

* `FactIndex.build`: the index of a list of class facts and a list of processor facts.
* `FactIndex.supertypeChain`: all supertypes of a class, nearest first.
* `FactIndex.entryPoints`: the classes that start a flow, sorted by name.
-/

namespace FlowDiagram

/-- A key that was claimed by two facts: the description of the one that was replaced and of the
one that was kept. -/
structure Duplicate where
  key : Name
  replaced : Text
  kept : Text
  deriving DecidableEq, Repr

/-- The warning about a duplicate of some kind of key. -/
def Duplicate.describe (kind : Text) (duplicate : Duplicate) : Text :=
  kind ++ " '" ++ duplicate.key ++ "' claimed by both " ++ duplicate.replaced ++ " and " ++
    duplicate.kept ++ "; using " ++ duplicate.kept

/-- The facts of one scan, by key. -/
structure FactIndex where
  classes : Table ClassFact
  processors : Table ProcessorFact
  duplicateClasses : List Duplicate
  duplicateProcessors : List Duplicate

namespace FactIndex

/-- The index without facts. -/
def empty : FactIndex := ⟨.empty, .empty, [], []⟩

/-- The record of an overwrite, if a fact stood under the key. -/
def overwrite {α : Type} (describe : α → Text) (key : Name) (previous : Option α) (fact : α) :
    List Duplicate :=
  match previous with
  | none => []
  | some old => [⟨key, describe old, describe fact⟩]

/-- Adds a class fact. -/
def addClass (index : FactIndex) (fact : ClassFact) : FactIndex :=
  { index with
    classes := index.classes.insert fact.name fact
    duplicateClasses := index.duplicateClasses ++
      overwrite ClassFact.origin fact.name (index.classes.get? fact.name) fact }

/-- Adds a processor fact. -/
def addProcessor (index : FactIndex) (fact : ProcessorFact) : FactIndex :=
  { index with
    processors := index.processors.insert fact.activity fact
    duplicateProcessors := index.duplicateProcessors ++
      overwrite ProcessorFact.processorName fact.activity (index.processors.get? fact.activity)
        fact }

/-- The index of facts in the order of their declaration. -/
def build (classes : List ClassFact) (processors : List ProcessorFact) : FactIndex :=
  processors.foldl addProcessor (classes.foldl addClass empty)

/-- The warnings about duplicates: classes first, then activities. -/
def duplicateWarnings (index : FactIndex) : List Text :=
  index.duplicateClasses.map (Duplicate.describe "Class") ++
    index.duplicateProcessors.map (Duplicate.describe "Activity")

/-- The class of a name. -/
def class? (index : FactIndex) (name : Name) : Option ClassFact :=
  index.classes.get? name

/-- The processor of an activity. -/
def processor? (index : FactIndex) (activity : Name) : Option ProcessorFact :=
  index.processors.get? activity

/-- Whether an activity creates a manual task. -/
def createsManualTask (index : FactIndex) (activity : Name) : Bool :=
  (index.processor? activity).any (·.createsManualTask)

/-- The part of a name after its last dot. -/
def simpleName (name : Name) : Name :=
  (name.reverse.takeWhile (· ≠ .char '.')).reverse

/-- A declared supertype as it is looked up: an indexed class is itself, any other name stands for
its part after the last dot. -/
def resolve (index : FactIndex) (supertype : Name) : Name :=
  if (index.class? supertype).isSome then supertype else simpleName supertype

/-- The resolved supertypes of a class, in the order of their declaration. -/
def supertypes (index : FactIndex) (name : Name) : List Name :=
  match index.class? name with
  | none => []
  | some fact => fact.supertypeNames.map index.resolve

theorem supertypes_eq_nil {index : FactIndex} {name : Name} (h : name ∉ index.classes.keys) :
    index.supertypes name = [] := by
  unfold supertypes
  cases hc : index.class? name with
  | none => rfl
  | some fact => exact absurd (Table.mem_keys_of_get? hc) h

/-- Searches the supertypes breadth first. `seen` are the names already met, in order, and
`pending` the ones still to visit. -/
def searchSupertypes (index : FactIndex) (seen : List Name) : List Name → List Name
  | [] => seen
  | supertype :: pending =>
    if supertype ∈ seen then searchSupertypes index seen pending
    else searchSupertypes index (seen ++ [supertype]) (pending ++ index.supertypes supertype)
termination_by pending => ((unseen index.classes.keys seen.contains).length, pending.length)
decreasing_by
  · exact Prod.Lex.right _ (Nat.lt_succ_self _)
  · rename_i h
    by_cases hk : supertype ∈ index.classes.keys
    · exact Prod.Lex.left _ _ (length_unseen_append_lt hk h)
    · rw [supertypes_eq_nil hk, List.append_nil]
      rcases Nat.lt_or_eq_of_le
        (length_unseen_append_le index.classes.keys seen supertype) with hlt | heq
      · exact Prod.Lex.left _ _ hlt
      · rw [heq]
        exact Prod.Lex.right _ (Nat.lt_succ_self _)

/-- All supertypes of a class, nearest first, without repetition and without the class itself.
Names that are no indexed class end their branch but are listed. -/
def supertypeChain (index : FactIndex) (name : Name) : List Name :=
  (index.searchSupertypes [name] (index.supertypes name)).drop 1

/-- Whether some supertype of a class holds a text in its name. -/
def hasSupertypeHolding (index : FactIndex) (text : Text) (name : Name) : Bool :=
  (index.supertypeChain name).any (Text.occurs text)

/-- The classes that start a flow, sorted by name; with a text, only those with a supertype that
holds it. The empty text selects nothing away. -/
def entryPoints (index : FactIndex) (supertype : Option Text) : List ClassFact :=
  let entries := index.classes.values.filter (·.isEntryPoint)
  let selected :=
    match supertype with
    | none => entries
    | some text =>
      if text.isEmpty then entries
      else entries.filter fun fact => index.hasSupertypeHolding text fact.name
  selected.mergeSort fun a b => decide (a.name ≤ b.name)

end FactIndex

end FlowDiagram
