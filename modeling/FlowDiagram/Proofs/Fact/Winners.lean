import FlowDiagram.Proofs.Fact.EntryPoints
import FlowDiagram.Proofs.Fact.Index

/-!
# Winning facts

Of the facts that claim one key the last one wins, and an index finds this one and no other. So two
lists of facts with the same winners lead to indexes that find the same; where a fact stands in its
list, and which facts it has replaced, shows in the order of the tables and in the duplicates only.

## Main definitions

* `winner?`: the fact that wins under a key.
* `SameWinners`: lists of facts with the same winners.
* `Rearranged`, `Pruned`: facts in another order, and facts without some that are replaced later.

`FactIndex.class?_build` and `FactIndex.processor?_build` say what an index finds, and
`FactIndex.ClassesByName.entryPoints_congr` that the entry points of an index depend on it only.
-/

namespace FlowDiagram

variable {α : Type} {key : α → Name}

/-! ## Winners -/

/-- The fact that wins under a name: the last one of those whose key it is. -/
def winner? (key : α → Name) (facts : List α) (name : Name) : Option α :=
  (facts.filter (key · = name)).getLast?

/-- Under every name the same fact wins in two lists, or no fact has the name in either. -/
def SameWinners (key : α → Name) (facts others : List α) : Prop :=
  ∀ name, winner? key facts name = winner? key others name

/-- The facts of two lists that have one key are the same and in the same order. The lists differ in
where the facts of different keys stand among one another. -/
def Rearranged (key : α → Name) (facts others : List α) : Prop :=
  ∀ name, facts.filter (key · = name) = others.filter (key · = name)

/-- `Pruned key facts others`: the other facts are what is left if some facts are left out that a
later fact replaces. -/
inductive Pruned (key : α → Name) : List α → List α → Prop
  /-- Nothing is left out. -/
  | nil : Pruned key [] []
  /-- A fact stays. -/
  | keep {facts others : List α} (fact : α) (rest : Pruned key facts others) :
    Pruned key (fact :: facts) (fact :: others)
  /-- A fact is left out that is replaced later. -/
  | drop {facts others : List α} {fact : α} (h : ∃ later ∈ facts, key later = key fact)
    (rest : Pruned key facts others) : Pruned key (fact :: facts) others

/-- A fact wins unless a later one does. -/
theorem winner?_cons (key : α → Name) (fact : α) (facts : List α) (name : Name) :
    winner? key (fact :: facts) name =
      (winner? key facts name).or (if key fact = name then some fact else none) := by
  simp only [winner?, List.filter_cons, decide_eq_true_eq]
  split
  · rw [List.getLast?_cons]
    cases (facts.filter (key · = name)).getLast? <;> rfl
  · rw [Option.or_none]

theorem isSome_winner? {facts : List α} {fact : α} (h : fact ∈ facts) :
    (winner? key facts (key fact)).isSome = true := by
  have hne : facts.filter (key · = key fact) ≠ [] :=
    List.ne_nil_of_mem (List.mem_filter.mpr ⟨h, decide_eq_true rfl⟩)
  rw [winner?, List.getLast?_eq_some_getLast hne, Option.isSome_some]

theorem winner?_eq_none_iff {facts : List α} {name : Name} :
    winner? key facts name = none ↔ ∀ fact ∈ facts, key fact ≠ name := by
  simp [winner?]

/-- A fact of the first list wins unless one of the second list does. -/
theorem winner?_append (key : α → Name) (facts others : List α) (name : Name) :
    winner? key (facts ++ others) name = (winner? key others name).or (winner? key facts name) := by
  rw [winner?, List.filter_append, List.getLast?_append]
  rfl

theorem winner?_flatMap_eq_none_iff {β : Type} {sources : List β} {facts : β → List α}
    {name : Name} :
    winner? key (sources.flatMap facts) name = none ↔
      ∀ source ∈ sources, winner? key (facts source) name = none := by
  simp only [winner?_eq_none_iff, List.mem_flatMap, forall_exists_index, and_imp]
  exact ⟨fun h source hsource fact => h fact source hsource,
    fun h fact source hsource => h source hsource fact⟩

/-- The fact that wins among the facts of several sources, in their order, is the one that wins in
the last source that claims the name. -/
theorem winner?_flatMap_eq_some_iff {β : Type} {before : β → β → Prop}
    (hasymm : ∀ a b, before a b → ¬ before b a) {sources : List β}
    (hsorted : sources.Pairwise before) (facts : β → List α) {name : Name} {fact : α} :
    winner? key (sources.flatMap facts) name = some fact ↔
      ∃ source ∈ sources, winner? key (facts source) name = some fact ∧
        ∀ later ∈ sources, before source later → winner? key (facts later) name = none := by
  induction sources with
  | nil => simp [winner?]
  | cons first sources ih =>
    obtain ⟨hfirst, hsorted⟩ := List.pairwise_cons.mp hsorted
    have ih := ih hsorted
    rw [List.flatMap_cons, winner?_append]
    cases hrest : winner? key (sources.flatMap facts) name with
    | none =>
      have hnone := winner?_flatMap_eq_none_iff.mp hrest
      rw [Option.none_or]
      constructor
      · intro hwins
        refine ⟨first, List.mem_cons_self, hwins, fun later hlater hbefore => ?_⟩
        rcases List.mem_cons.mp hlater with rfl | hlater
        · exact absurd hbefore (hasymm _ _ hbefore)
        · exact hnone later hlater
      · rintro ⟨source, hsource, hwins, -⟩
        rcases List.mem_cons.mp hsource with rfl | hsource
        · exact hwins
        · rw [hnone source hsource] at hwins
          cases hwins
    | some found =>
      rw [Option.some_or, ← hrest, ih]
      constructor
      · rintro ⟨source, hsource, hwins, hlast⟩
        refine ⟨source, List.mem_cons_of_mem _ hsource, hwins, fun later hlater hbefore => ?_⟩
        rcases List.mem_cons.mp hlater with rfl | hlater
        · exact absurd hbefore (hasymm _ _ (hfirst source hsource))
        · exact hlast later hlater hbefore
      · rintro ⟨source, hsource, hwins, hlast⟩
        rcases List.mem_cons.mp hsource with rfl | hsource
        · have hnone : winner? key (sources.flatMap facts) name = none :=
            winner?_flatMap_eq_none_iff.mpr fun later hlater =>
              hlast later (List.mem_cons_of_mem _ hlater) (hfirst later hlater)
          rw [hnone] at hrest
          cases hrest
        · exact ⟨source, hsource, hwins, fun later hlater =>
            hlast later (List.mem_cons_of_mem _ hlater)⟩

theorem SameWinners.trans {facts others more : List α} (h : SameWinners key facts others)
    (h' : SameWinners key others more) : SameWinners key facts more :=
  fun name => (h name).trans (h' name)

/-- Neighbours with different keys may change places. -/
theorem rearranged_swap {a b : α} (h : key a ≠ key b) (facts : List α) :
    Rearranged key (a :: b :: facts) (b :: a :: facts) := by
  intro name
  by_cases ha : key a = name
  · have hb : key b ≠ name := fun hb => h (ha.trans hb.symm)
    simp [ha, hb]
  · simp [List.filter_cons, ha]

theorem Rearranged.sameWinners {facts others : List α} (h : Rearranged key facts others) :
    SameWinners key facts others :=
  fun name => congrArg List.getLast? (h name)

/-- Facts that are replaced later do not win. -/
theorem Pruned.sameWinners {facts others : List α} (h : Pruned key facts others) :
    SameWinners key facts others := by
  intro name
  induction h with
  | nil => rfl
  | keep fact _ ih => rw [winner?_cons, winner?_cons, ih]
  | @drop facts others fact hlater _ ih =>
    rw [winner?_cons, ← ih]
    split
    · rename_i hname
      obtain ⟨later, hmem, hkey⟩ := hlater
      have hsome : (winner? key facts (key later)).isSome = true := isSome_winner? hmem
      rw [hkey, hname] at hsome
      rw [Option.or_of_isSome hsome]
    · exact Option.or_none

/-! ## What an index finds -/

namespace Table

/-- Of the facts that are put into a table, the last one of every key is found. -/
theorem get?_foldl_insert (key : α → Name) (facts : List α) (table : Table α) (name : Name) :
    (facts.foldl (fun table fact => table.insert (key fact) fact) table).get? name =
      (winner? key facts name).or (table.get? name) := by
  induction facts generalizing table with
  | nil => rfl
  | cons fact facts ih =>
    rw [List.foldl_cons, ih, get?_insert, winner?_cons, Option.or_assoc]
    by_cases hname : name = key fact
    · rw [if_pos hname, if_pos hname.symm, Option.some_or]
    · rw [if_neg hname, if_neg (Ne.symm hname), Option.none_or]

/-- Where keys are not repeated, the rows of a table are what is found. -/
theorem get?_eq_some_iff {table : Table α} (hnodup : table.keys.Nodup) {name : Name} {value : α} :
    table.get? name = some value ↔ (name, value) ∈ table.rows := by
  obtain ⟨rows⟩ := table
  simp only [keys, get?] at hnodup ⊢
  induction rows with
  | nil => simp
  | cons row rows ih =>
    obtain ⟨k, v⟩ := row
    rw [List.map_cons, List.nodup_cons] at hnodup
    rw [List.lookup_cons, List.mem_cons, Prod.mk.injEq]
    by_cases hk : name = k
    · subst hk
      have hnew : (name, value) ∉ rows := fun h => hnodup.1 (List.mem_map.mpr ⟨_, h, rfl⟩)
      simp [hnew, eq_comm]
    · have hb : (name == k) = false := by simpa using hk
      simp [hb, hk, ih hnodup.2]

end Table

namespace FactIndex

theorem class?_build (classes : List ClassFact) (processors : List ProcessorFact) :
    (build classes processors).class? = winner? ClassFact.name classes := by
  have hclasses : (classes.foldl addClass empty).classes =
      classes.foldl (fun table fact => table.insert fact.name fact) .empty :=
    (List.foldl_hom FactIndex.classes fun _ _ => rfl).symm
  have hbuild : (build classes processors).classes = (classes.foldl addClass empty).classes :=
    List.foldlRecOn processors addProcessor
      (motive := fun index => index.classes = (classes.foldl addClass empty).classes) rfl
      fun index (h : index.classes = _) _ _ => h
  funext name
  rw [class?, hbuild, hclasses, Table.get?_foldl_insert]
  exact Option.or_none

theorem processor?_build (classes : List ClassFact) (processors : List ProcessorFact) :
    (build classes processors).processor? = winner? ProcessorFact.activity processors := by
  have hclasses : (classes.foldl addClass empty).processors = .empty :=
    List.foldlRecOn classes addClass (motive := fun index => index.processors = .empty) rfl
      fun index (h : index.processors = _) _ _ => h
  have hprocessors : (build classes processors).processors =
      processors.foldl (fun table fact => table.insert fact.activity fact) .empty := by
    rw [← hclasses]
    exact (List.foldl_hom FactIndex.processors fun _ _ => rfl).symm
  funext activity
  rw [processor?, hprocessors, Table.get?_foldl_insert]
  exact Option.or_none

/-! ## Entry points -/

namespace ClassesByName

variable {index other : FactIndex}

/-- The classes of an index are those that it finds under their names. -/
theorem mem_values_iff (h : index.ClassesByName) {fact : ClassFact} :
    fact ∈ index.classes.values ↔ index.class? fact.name = some fact := by
  rw [class?, Table.get?_eq_some_iff h.nodup, Table.values, List.mem_map]
  constructor
  · rintro ⟨⟨name, found⟩, hrow, rfl⟩
    rwa [show found.name = name from h.name_eq _ hrow]
  · exact fun hrow => ⟨_, hrow, rfl⟩

/-- Indexes that find the same classes list the same classes. -/
theorem values_perm (h : index.ClassesByName) (h' : other.ClassesByName)
    (hclass : index.class? = other.class?) :
    index.classes.values.Perm other.classes.values := by
  have hnodup := (h.nodup_map_name (List.Sublist.refl _)).of_map
  have hnodup' := (h'.nodup_map_name (List.Sublist.refl _)).of_map
  refine (List.perm_ext_iff_of_nodup hnodup hnodup').mpr fun fact => ?_
  rw [h.mem_values_iff, h'.mem_values_iff, hclass]

/-- Indexes that find the same classes have the same entry points, in the same order. -/
theorem entryPoints_congr (h : index.ClassesByName) (h' : other.ClassesByName)
    (hclass : index.class? = other.class?) (supertype : Option Text) :
    index.entryPoints supertype = other.entryPoints supertype := by
  have hentries := (h.values_perm h' hclass).filter (·.isEntryPoint)
  refine sort_eq_of_perm ?_ (h'.pairwise_entryPoints supertype)
  unfold entryPoints
  refine List.Perm.trans ?_ (List.mergeSort_perm _ _).symm
  split
  · exact hentries
  · split
    · exact hentries
    · simp only [hasSupertypeHolding_congr hclass]
      exact hentries.filter _

end ClassesByName

end FactIndex

end FlowDiagram
