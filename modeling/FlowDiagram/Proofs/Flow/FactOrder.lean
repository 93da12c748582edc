import FlowDiagram.Proofs.Fact.Winners
import FlowDiagram.Proofs.Flow.HiddenConditions
import FlowDiagram.Proofs.Flow.Reach

/-!
# The order of facts

A run over all entry points depends on the winning facts only. Nothing in the results tells where a
fact stood among those of other keys, or which facts it has replaced: files may be renamed, split
and read in another order, and the diagrams stay the same as long as the same facts win.

`generateAll_congr_of_winners` is the main result.
-/

namespace FlowDiagram

/-- A run comes to the same over indexes that find the same facts. -/
theorem generateAll_congr {index other : FactIndex} (settings : FlowSettings) (outages : Outages)
    (hnamed : index.ClassesByName) (hnamed' : other.ClassesByName)
    (hclass : index.class? = other.class?) (hprocessor : index.processor? = other.processor?) :
    generateAll settings index outages none = generateAll settings other outages none := by
  have hentries : index.entryPoints settings.entrySupertype =
      other.entryPoints settings.entrySupertype :=
    hnamed.entryPoints_congr hnamed' hclass settings.entrySupertype
  have hagree : ∀ activities, FactIndex.AgreeOn activities index other := fun activities =>
    ⟨congrFun hclass, fun activity _ => congrFun hprocessor activity⟩
  have hflow : generateFlow settings index outages = generateFlow settings other outages :=
    funext fun fact => generateFlow_congr_of_agreeOn settings outages fact (hagree _)
  rw [generateAll, generateAll, selectEntries, selectEntries, Option.getD_none, Option.getD_none,
    hentries, hflow]

/-- Facts with the same winners come to the same. -/
theorem generateAll_build_congr (settings : FlowSettings) (outages : Outages)
    {classes classes' : List ClassFact} {processors processors' : List ProcessorFact}
    (hclasses : SameWinners ClassFact.name classes classes')
    (hprocessors : SameWinners ProcessorFact.activity processors processors') :
    generateAll settings (.build classes processors) outages none =
      generateAll settings (.build classes' processors') outages none := by
  refine generateAll_congr settings outages (FactIndex.classesByName_build _ _)
    (FactIndex.classesByName_build _ _) ?_ ?_
  · rw [FactIndex.class?_build, FactIndex.class?_build]
    exact funext hclasses
  · rw [FactIndex.processor?_build, FactIndex.processor?_build]
    exact funext hprocessors

/-- The results of a run over all entry points, and what is reported on the way, are settled by the
facts that win. Facts may be rearranged as long as those of one key keep their order, and facts may
be left out that are replaced later: no diagram, no warning and no number changes. -/
theorem generateAll_congr_of_winners (settings : FlowSettings) (outages : Outages)
    (classes classes' : List ClassFact) (processors processors' : List ProcessorFact) :
    let generated (classes : List ClassFact) (processors : List ProcessorFact) :=
      generateAll settings (.build classes processors) outages none
    (SameWinners ClassFact.name classes classes' →
        SameWinners ProcessorFact.activity processors processors' →
          generated classes processors = generated classes' processors') ∧
      (Rearranged ClassFact.name classes classes' →
        Rearranged ProcessorFact.activity processors processors' →
          generated classes processors = generated classes' processors') ∧
      (Pruned ClassFact.name classes classes' →
        Pruned ProcessorFact.activity processors processors' →
          generated classes processors = generated classes' processors') := by
  intro generated
  exact ⟨fun hclasses hprocessors => generateAll_build_congr settings outages hclasses hprocessors,
    fun hclasses hprocessors => generateAll_build_congr settings outages hclasses.sameWinners
      hprocessors.sameWinners,
    fun hclasses hprocessors => generateAll_build_congr settings outages hclasses.sameWinners
      hprocessors.sameWinners⟩

/-! ## A review that was declared twice -/

/-- An archive between two processors of one review. -/
def repeatedReview : List ProcessorFact :=
  [reviewProcessor "behandling.amount > 100" "else", archiveProcessor,
    reviewProcessor "krav.age < 18" "else"]

/-- The second of the reviews before the archive. -/
def settledReview : List ProcessorFact :=
  [reviewProcessor "krav.age < 18" "else", archiveProcessor]

theorem sameWinners_review :
    SameWinners ProcessorFact.activity repeatedReview settledReview := by
  have hpruned : Pruned ProcessorFact.activity repeatedReview
      [archiveProcessor, reviewProcessor "krav.age < 18" "else"] :=
    .drop ⟨_, List.mem_cons_of_mem _ List.mem_cons_self, rfl⟩ (.keep _ (.keep _ .nil))
  exact hpruned.sameWinners.trans (rearranged_swap (by decide) []).sameWinners

/-- The review that was replaced leaves no trace. -/
theorem generateAll_congr_of_winners_review :
    SameWinners ProcessorFact.activity repeatedReview settledReview ∧
      generateAll {} (.build [reviewClass] repeatedReview) [] none =
        generateAll {} (.build [reviewClass] settledReview) [] none :=
  ⟨sameWinners_review,
    (generateAll_congr_of_winners {} [] [reviewClass] [reviewClass] repeatedReview
      settledReview).1 (fun _ => rfl) sameWinners_review⟩

end FlowDiagram
