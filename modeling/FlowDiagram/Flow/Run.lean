import FlowDiagram.Fact.Loading
import FlowDiagram.Flow.Generation

/-!
# Runs

A run loads the facts below a path and generates the flows of all entry points. Facts that cannot be
loaded end the run; everything else is part of its summary.

## Main definitions

* `loadIndex`: the index of the facts at a path.
* `run`: the summary of a run.
-/

namespace FlowDiagram

/-- What an activity answers, and what it has reported up to its end. -/
structure Reported (α : Type) where
  events : List Event
  answer : Except LoadError α

/-- The index of a run, and the files that its facts come from. -/
structure LoadedIndex where
  index : FactIndex
  files : List Path

/-- The messages about discovered fact files. -/
def discoveryNotes (root : Path) (paths : List Path) : List Note :=
  if paths.isEmpty then [.noFactFiles root] else []

/-- The messages about files that were read. -/
def fileNotes (files : List (Path × FactFile)) : List Note :=
  files.map fun (path, file) => .fileLoaded file.classes.length file.processors.length path

/-- The messages about an index and the facts it was built of. -/
def indexNotes (facts : FactSet) (index : FactIndex) : List Note :=
  [.factsLoaded facts.classes.length facts.processors.length facts.sources.length] ++
    index.duplicateWarnings.map .duplicate ++
    [.indexed index.classes.rows.length index.processors.rows.length]

/-- A search leaves less room for folders inside one another than the reading of a document leaves
for containers, by so many. -/
def searchShare : Nat := 2

/-- Loads the facts at a path and builds their index. The documents are read with room for so many
containers inside one another. -/
def loadIndex (room : Nat) (disk : Disk) (root : Path) : Reported LoadedIndex :=
  match discover disk root (room - searchShare) with
  | .error e => ⟨[.span], .error e⟩
  | .ok paths =>
    let (files, error) := loadFiles room disk paths
    let notes := discoveryNotes root paths ++ fileNotes files
    match error with
    | some e => ⟨.span :: notes.map .note, .error e⟩
    | none =>
      let facts := FactSet.ofFiles files
      let index := FactIndex.build facts.classes facts.processors
      ⟨.span :: (notes ++ indexNotes facts index).map .note, .ok ⟨index, paths⟩⟩

/-- What loading makes of a summary: the files and the warnings about their facts are added to it.
Facts that cannot be loaded leave it as it was. -/
def RunSummary.afterLoading (summary : RunSummary) : Except LoadError LoadedIndex → RunSummary
  | .error _ => summary
  | .ok loaded =>
    { summary with
      factFiles := summary.factFiles ++ loaded.files
      warnings := summary.warnings ++ loaded.index.duplicateWarnings }

/-- The summary of a run with the given results. -/
def RunSummary.ofResults (loaded : LoadedIndex) (results : List FlowResult) : RunSummary :=
  { ({} : RunSummary).afterLoading (.ok loaded) with results }

/-- Runs: loads the facts at a path and generates all flows. -/
def run (settings : FlowSettings) (room : Nat) (disk : Disk) (outages : Outages) (root : Path) :
    Reported RunSummary :=
  let loading := loadIndex room disk root
  match loading.answer with
  | .error e => ⟨loading.events, .error e⟩
  | .ok loaded =>
    let (results, events) := generateAll settings loaded.index outages none
    let summary := RunSummary.ofResults loaded results
    ⟨loading.events ++ events ++ [.note (.runComplete summary.counts)], .ok summary⟩

end FlowDiagram
