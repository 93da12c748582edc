import FlowDiagram.Fact.Index
import FlowDiagram.Proofs.Sequence.Turns
import Mathlib.Data.List.TakeWhile
import Mathlib.Order.Lattice.Nat

/-!
# The supertypes of a class

What a class inherits from is declared class by class. A declared supertype is an indexed class, or
it stands for its part after the last dot, which may be the name of an indexed class again or may
end its branch. Such links may lead in circles and back to the class they started from.

The search for all supertypes takes one pending name at a time and puts the supertypes of a new name
behind everything that is pending already. So the pending names are of two kinds, first those one
link further away than what is known completely, then those another link further, and names are
listed in the order of their distance. A name may be pending several times; it is skipped if it is
listed already.

## Main definitions

* `FactIndex.Inherits`: a class declares a supertype that stands for a name.
* `FactIndex.distance`: how many links lead to a name, at least.
* `FactIndex.Turn`: one turn of the search.
* `FactIndex.Frontier`: what holds after every turn.
* `FactIndex.NearestFirst`: all supertypes of a class, nearest first.

`FactIndex.turns_iff` says that the search ends with the supertypes of a class, and
`FactIndex.nearestFirst_supertypeChain` what these are.
-/

namespace FlowDiagram.FactIndex

open Relation

/-! ## What classes declare -/

/-- The part of a name after its last dot. A name without a dot is such a part as a whole. -/
def IsLastPart (name part : Name) : Prop :=
  .char '.' ∉ part ∧ (name = part ∨ ∃ front, name = front ++ .char '.' :: part)

theorem ne_dot_of_mem_reverse {part : Name} (h : .char '.' ∉ part) :
    ∀ point ∈ part.reverse, decide (point ≠ CodePoint.char '.') = true := by
  intro point hpoint
  refine decide_eq_true ?_
  rintro rfl
  exact h (List.mem_reverse.mp hpoint)

theorem simpleName_of_not_mem {part : Name} (h : .char '.' ∉ part) : simpleName part = part := by
  rw [simpleName, List.takeWhile_eq_self_iff.mpr (ne_dot_of_mem_reverse h), List.reverse_reverse]

theorem simpleName_append (front : Name) {part : Name} (h : .char '.' ∉ part) :
    simpleName (front ++ .char '.' :: part) = part := by
  rw [simpleName, List.reverse_append, List.reverse_cons, List.append_assoc,
    List.takeWhile_append_of_pos (ne_dot_of_mem_reverse h)]
  simp

/-- A name has one last part. -/
theorem isLastPart_iff {name part : Name} : IsLastPart name part ↔ part = simpleName name := by
  constructor
  · rintro ⟨hpart, rfl | ⟨front, rfl⟩⟩
    · exact (simpleName_of_not_mem hpart).symm
    · exact (simpleName_append front hpart).symm
  · rintro rfl
    by_cases hdot : .char '.' ∈ name
    · -- The last dot is the first one from the end.
      obtain ⟨back, front, hname, hback⟩ := List.eq_append_cons_of_mem (List.mem_reverse.mpr hdot)
      obtain rfl : name = front.reverse ++ .char '.' :: back.reverse := by
        rw [← List.reverse_reverse name, hname]
        simp
      have hpart : .char '.' ∉ back.reverse := by simpa using hback
      rw [simpleName_append _ hpart]
      exact ⟨hpart, Or.inr ⟨_, rfl⟩⟩
    · rw [simpleName_of_not_mem hdot]
      exact ⟨hdot, Or.inl rfl⟩

/-- What a declared supertype stands for: itself if it is an indexed class, and otherwise its last
part. -/
def StandsFor (index : FactIndex) (declared name : Name) : Prop :=
  (∃ fact, index.class? declared = some fact) ∧ name = declared ∨
    index.class? declared = none ∧ IsLastPart declared name

/-- A supertype link: a class declares a supertype that stands for a name. -/
def Inherits (index : FactIndex) (name supertype : Name) : Prop :=
  ∃ fact, index.class? name = some fact ∧
    ∃ declared ∈ fact.supertypeNames, StandsFor index declared supertype

theorem standsFor_iff {index : FactIndex} {declared name : Name} :
    StandsFor index declared name ↔ name = index.resolve declared := by
  rw [StandsFor, resolve, isLastPart_iff]
  cases index.class? declared <;> simp

theorem mem_supertypes_iff {index : FactIndex} {name supertype : Name} :
    supertype ∈ index.supertypes name ↔ Inherits index name supertype := by
  rw [supertypes, Inherits]
  cases index.class? name with
  | none => simp
  | some fact => simp [standsFor_iff, eq_comm]

/-! ## Distance -/

/-- A number of links leads from a name to another. -/
inductive Ascends (index : FactIndex) (name : Name) : Nat → Name → Prop
  | refl : Ascends index name 0 name
  | step {links : Nat} {lower upper : Name} (below : Ascends index name links lower)
      (link : Inherits index lower upper) : Ascends index name (links + 1) upper

/-- How many links lead from a name to another, at least. -/
noncomputable def distance (index : FactIndex) (name supertype : Name) : Nat :=
  sInf {links | Ascends index name links supertype}

variable {index : FactIndex} {name : Name}

theorem exists_ascends_iff {supertype : Name} :
    (∃ links, Ascends index name links supertype) ↔
      ReflTransGen (Inherits index) name supertype := by
  constructor
  · rintro ⟨links, h⟩
    induction h with
    | refl => exact .refl
    | step _ link ih => exact ih.tail link
  · intro h
    induction h with
    | refl => exact ⟨0, .refl⟩
    | tail _ link ih =>
      obtain ⟨links, below⟩ := ih
      exact ⟨links + 1, below.step link⟩

theorem distance_le {links : Nat} {supertype : Name} (h : Ascends index name links supertype) :
    distance index name supertype ≤ links :=
  Nat.sInf_le h

theorem ascends_distance {links : Nat} {supertype : Name}
    (h : Ascends index name links supertype) :
    Ascends index name (distance index name supertype) supertype :=
  Nat.sInf_mem (s := {links | Ascends index name links supertype}) ⟨links, h⟩

/-! ## The search -/

/-- One turn of the search: the first pending name is skipped if it is listed; otherwise it is
listed, and its supertypes become pending behind the others. -/
inductive Turn (index : FactIndex) : List Name × List Name → List Name × List Name → Prop
  /-- The name is listed already. -/
  | skip {seen pending : List Name} {supertype : Name} (h : supertype ∈ seen) :
    Turn index (seen, supertype :: pending) (seen, pending)
  /-- The name is new. -/
  | list {seen pending : List Name} {supertype : Name} (h : supertype ∉ seen) :
    Turn index (seen, supertype :: pending)
      (seen ++ [supertype], pending ++ index.supertypes supertype)

/-- How much is left to do: the classes not yet listed, then what is pending. -/
def rank (index : FactIndex) (state : List Name × List Name) : Nat × Nat :=
  ((unseen index.classes.keys state.1.contains).length, state.2.length)

theorem rank_turn {state next : List Name × List Name} (h : Turn index state next) :
    Prod.Lex (· < ·) (· < ·) (rank index next) (rank index state) := by
  cases h with
  | skip h => exact .right _ (Nat.lt_succ_self _)
  | @list seen pending supertype h =>
    by_cases hkey : supertype ∈ index.classes.keys
    · exact .left _ _ (length_unseen_append_lt hkey h)
    · rw [supertypes_eq_nil hkey, List.append_nil]
      rcases Nat.lt_or_eq_of_le
        (length_unseen_append_le index.classes.keys seen supertype) with hlt | heq
      · exact .left _ _ hlt
      · rw [rank, rank, heq]
        exact .right _ (Nat.lt_succ_self _)

/-- The search comes to an end. -/
theorem acc_turn (index : FactIndex) (state : List Name × List Name) :
    Acc (flip (Turn index)) state :=
  acc_of_rank (rank index) (fun _ _ => rank_turn) state

/-- No turn changes what the search ends with. -/
theorem searchSupertypes_turn {state next : List Name × List Name} (h : Turn index state next) :
    index.searchSupertypes state.1 state.2 = index.searchSupertypes next.1 next.2 := by
  cases h with
  | skip h => rw [searchSupertypes, if_pos h]
  | list h => rw [searchSupertypes, if_neg h]

/-- The search has a turn to take as long as a name is pending. -/
theorem exists_turn (index : FactIndex) (seen : List Name) (supertype : Name)
    (pending : List Name) : ∃ next, Turn index (seen, supertype :: pending) next := by
  by_cases h : supertype ∈ seen
  · exact ⟨_, .skip h⟩
  · exact ⟨_, .list h⟩

/-- The search ends with nothing pending. -/
theorem turns_iff {state : List Name × List Name} {seen : List Name} :
    ReflTransGen (Turn index) state (seen, []) ↔
      seen = index.searchSupertypes state.1 state.2 := by
  refine reflTransGen_iff_of_turn (fun seen => (seen, [])) (acc_turn index)
    (fun _ _ => searchSupertypes_turn) (fun seen => by rw [searchSupertypes]) fun state => ?_
  obtain ⟨seen, pending⟩ := state
  cases pending with
  | nil => exact Or.inl ⟨seen, rfl⟩
  | cons supertype pending => exact Or.inr (exists_turn index seen supertype pending)

/-! ## What holds after every turn -/

/-- The search in the middle of a level: everything within a number of links is listed, `near` are
the pending names one link further, and `far` those another link further. -/
structure Frontier (index : FactIndex) (name : Name) (links : Nat) (seen near far : List Name) :
    Prop where
  head? : seen.head? = some name
  nodup : seen.Nodup
  sorted : seen.Pairwise fun a b => distance index name a ≤ distance index name b
  /-- No name is listed that is further away than the near ones. -/
  reached : ∀ listed ∈ seen, ∃ fewer ≤ links + 1, Ascends index name fewer listed
  within : ∀ fewer ≤ links, ∀ other, Ascends index name fewer other → other ∈ seen
  level : ∀ other, Ascends index name (links + 1) other → other ∈ seen ∨ other ∈ near
  ascends_near : ∀ other ∈ near, Ascends index name (links + 1) other
  ascends_far : ∀ other ∈ far, Ascends index name (links + 2) other
  closed : ∀ lower ∈ seen, ∀ upper, Inherits index lower upper →
    upper ∈ seen ∨ upper ∈ near ++ far

namespace Frontier

variable {links : Nat} {seen near far : List Name} {supertype : Name}

/-- At the start the class alone is listed, and its supertypes are pending. -/
theorem start (index : FactIndex) (name : Name) :
    Frontier index name 0 [name] (index.supertypes name) [] where
  head? := rfl
  nodup := List.nodup_singleton name
  sorted := List.pairwise_singleton _ name
  reached listed hlisted := by
    rw [List.mem_singleton.mp hlisted]
    exact ⟨0, Nat.zero_le 1, .refl⟩
  within fewer hfewer other h := by
    obtain rfl := Nat.le_zero.mp hfewer
    cases h
    exact List.mem_singleton_self name
  level other h := by
    cases h with
    | step below link =>
      cases below
      exact Or.inr (mem_supertypes_iff.mpr link)
  ascends_near other h := Ascends.refl.step (mem_supertypes_iff.mp h)
  ascends_far other h := absurd h List.not_mem_nil
  closed lower hlower upper link := by
    rw [List.mem_singleton.mp hlower] at link
    rw [List.append_nil]
    exact Or.inr (mem_supertypes_iff.mpr link)

/-- When no near name is left, the next level begins. -/
theorem shift (h : Frontier index name links seen [] far) :
    Frontier index name (links + 1) seen far [] where
  head? := h.head?
  nodup := h.nodup
  sorted := h.sorted
  reached listed hlisted := by
    obtain ⟨fewer, hfewer, hlinks⟩ := h.reached listed hlisted
    exact ⟨fewer, Nat.le_succ_of_le hfewer, hlinks⟩
  within fewer hfewer other hlinks := by
    rcases Nat.le_succ_iff.mp hfewer with hfewer | rfl
    · exact h.within fewer hfewer other hlinks
    · exact (h.level other hlinks).resolve_right List.not_mem_nil
  level other hlinks := by
    cases hlinks with
    | step below link =>
      have hlower := (h.level _ below).resolve_right List.not_mem_nil
      exact h.closed _ hlower other link
  ascends_near := h.ascends_far
  ascends_far other hother := absurd hother List.not_mem_nil
  closed lower hlower upper link := by
    rw [List.append_nil]
    exact h.closed lower hlower upper link

/-- A name that is listed already need not be pending. -/
theorem skip (h : Frontier index name links seen (supertype :: near) far)
    (hseen : supertype ∈ seen) : Frontier index name links seen near far where
  head? := h.head?
  nodup := h.nodup
  sorted := h.sorted
  reached := h.reached
  within := h.within
  level other hlinks := by
    rcases h.level other hlinks with hother | hother
    · exact Or.inl hother
    · rcases List.mem_cons.mp hother with rfl | hother
      · exact Or.inl hseen
      · exact Or.inr hother
  ascends_near other hother := h.ascends_near other (List.mem_cons_of_mem supertype hother)
  ascends_far := h.ascends_far
  closed lower hlower upper link := by
    rcases h.closed lower hlower upper link with hupper | hupper
    · exact Or.inl hupper
    · rcases List.mem_cons.mp hupper with rfl | hupper
      · exact Or.inl hseen
      · exact Or.inr hupper

/-- A new name is at least as far away as the names that are listed. -/
theorem distance_le_of_new (h : Frontier index name links seen (supertype :: near) far)
    (hnew : supertype ∉ seen) {listed : Name} (hlisted : listed ∈ seen) :
    distance index name listed ≤ distance index name supertype := by
  have hfar : links + 1 ≤ distance index name supertype := by
    by_contra hnear
    have hlinks := ascends_distance (h.ascends_near supertype List.mem_cons_self)
    exact hnew (h.within _ (by omega) supertype hlinks)
  obtain ⟨fewer, hfewer, hlinks⟩ := h.reached listed hlisted
  exact (distance_le hlinks).trans (hfewer.trans hfar)

/-- A new name is listed, and its supertypes are far. -/
theorem list (h : Frontier index name links seen (supertype :: near) far)
    (hnew : supertype ∉ seen) :
    Frontier index name links (seen ++ [supertype]) near (far ++ index.supertypes supertype) where
  head? := by rw [List.head?_append, h.head?, Option.some_or]
  nodup := by
    rw [← List.concat_eq_append]
    exact h.nodup.concat hnew
  sorted := by
    refine List.pairwise_append.mpr ⟨h.sorted, List.pairwise_singleton _ _, ?_⟩
    intro listed hlisted new hnew'
    rw [List.mem_singleton.mp hnew']
    exact h.distance_le_of_new hnew hlisted
  reached listed hlisted := by
    rcases List.mem_append.mp hlisted with hlisted | hlisted
    · exact h.reached listed hlisted
    · rw [List.mem_singleton.mp hlisted]
      exact ⟨links + 1, Nat.le_refl _, h.ascends_near supertype List.mem_cons_self⟩
  within fewer hfewer other hlinks :=
    List.mem_append_left _ (h.within fewer hfewer other hlinks)
  level other hlinks := by
    rcases h.level other hlinks with hother | hother
    · exact Or.inl (List.mem_append_left _ hother)
    · rcases List.mem_cons.mp hother with rfl | hother
      · exact Or.inl (List.mem_append_right _ (List.mem_singleton_self other))
      · exact Or.inr hother
  ascends_near other hother := h.ascends_near other (List.mem_cons_of_mem supertype hother)
  ascends_far other hother := by
    rcases List.mem_append.mp hother with hother | hother
    · exact h.ascends_far other hother
    · exact (h.ascends_near supertype List.mem_cons_self).step (mem_supertypes_iff.mp hother)
  closed lower hlower upper link := by
    rw [← List.append_assoc]
    rcases List.mem_append.mp hlower with hlower | hlower
    · rcases h.closed lower hlower upper link with hupper | hupper
      · exact Or.inl (List.mem_append_left _ hupper)
      · rcases List.mem_cons.mp hupper with rfl | hupper
        · exact Or.inl (List.mem_append_right _ (List.mem_singleton_self upper))
        · exact Or.inr (List.mem_append_left _ hupper)
    · rw [List.mem_singleton.mp hlower] at link
      exact Or.inr (List.mem_append_right _ (mem_supertypes_iff.mpr link))

end Frontier

/-- The search has listed names level by level, and is somewhere in the middle of a level. -/
def Searched (index : FactIndex) (name : Name) (state : List Name × List Name) : Prop :=
  ∃ links near far, state.2 = near ++ far ∧ Frontier index name links state.1 near far

/-- The first pending name may be taken for a near one. -/
theorem Searched.exists_near {seen pending : List Name} {supertype : Name}
    (h : Searched index name (seen, supertype :: pending)) :
    ∃ links near far, pending = near ++ far ∧
      Frontier index name links seen (supertype :: near) far := by
  obtain ⟨links, near, far, hpending, hfrontier⟩ := h
  cases near with
  | nil =>
    have hfar : supertype :: pending = far := hpending
    rw [← hfar] at hfrontier
    exact ⟨links + 1, pending, [], (List.append_nil pending).symm, hfrontier.shift⟩
  | cons first near =>
    obtain ⟨rfl, rfl⟩ := List.cons.inj hpending
    exact ⟨links, near, far, rfl, hfrontier⟩

/-- Every turn keeps the levels apart. -/
theorem Searched.turn {state next : List Name × List Name} (h : Searched index name state)
    (hturn : Turn index state next) : Searched index name next := by
  cases hturn with
  | skip hseen =>
    obtain ⟨links, near, far, hpending, hfrontier⟩ := h.exists_near
    exact ⟨links, near, far, hpending, hfrontier.skip hseen⟩
  | list hnew =>
    obtain ⟨links, near, far, rfl, hfrontier⟩ := h.exists_near
    exact ⟨links, near, _, List.append_assoc .., hfrontier.list hnew⟩

/-- All turns together keep the levels apart. -/
theorem Searched.turns {state next : List Name × List Name} (h : Searched index name state)
    (hturns : ReflTransGen (Turn index) state next) : Searched index name next := by
  induction hturns with
  | refl => exact h
  | tail _ hturn ih => exact ih.turn hturn

/-- So the search keeps the levels apart to its end. -/
theorem searched_searchSupertypes (index : FactIndex) (name : Name) :
    Searched index name (index.searchSupertypes [name] (index.supertypes name), []) := by
  have hstart : Searched index name ([name], index.supertypes name) :=
    ⟨0, _, [], (List.append_nil _).symm, Frontier.start index name⟩
  exact hstart.turns (turns_iff.mpr rfl)

/-! ## All supertypes -/

/-- All supertypes of a class, nearest first: each name once that links lead to, but for the class
itself. -/
structure NearestFirst (index : FactIndex) (name : Name) (chain : List Name) : Prop where
  nodup : chain.Nodup
  mem_iff : ∀ supertype, supertype ∈ chain ↔
    supertype ≠ name ∧ TransGen (Inherits index) name supertype
  sorted : chain.Pairwise fun a b => distance index name a ≤ distance index name b

theorem searchSupertypes_eq_cons (index : FactIndex) (name : Name) :
    index.searchSupertypes [name] (index.supertypes name) = name :: index.supertypeChain name := by
  obtain ⟨links, near, far, -, hfrontier⟩ := searched_searchSupertypes index name
  obtain ⟨chain, hchain⟩ := List.head?_eq_some_iff.mp hfrontier.head?
  dsimp only at hchain
  rw [supertypeChain, hchain, List.drop_one, List.tail_cons]

/-- Where nothing is pending, everything is listed that links lead to. -/
theorem Frontier.mem_of_path {links : Nat} {seen : List Name}
    (h : Frontier index name links seen [] []) {supertype : Name}
    (hpath : ReflTransGen (Inherits index) name supertype) : supertype ∈ seen := by
  induction hpath with
  | refl => exact List.mem_of_mem_head? h.head?
  | tail _ link ih => exact (h.closed _ ih _ link).resolve_right List.not_mem_nil

/-- The search lists the supertypes of a class, nearest first. -/
theorem nearestFirst_supertypeChain (index : FactIndex) (name : Name) :
    NearestFirst index name (index.supertypeChain name) := by
  obtain ⟨links, near, far, hpending, hfrontier⟩ := searched_searchSupertypes index name
  obtain ⟨rfl, rfl⟩ := List.append_eq_nil_iff.mp hpending.symm
  rw [searchSupertypes_eq_cons] at hfrontier
  obtain ⟨hnot, hnodup⟩ := List.nodup_cons.mp hfrontier.nodup
  refine ⟨hnodup, fun supertype => ?_, (List.pairwise_cons.mp hfrontier.sorted).2⟩
  constructor
  · intro hmem
    have hne : supertype ≠ name := fun heq => hnot (heq ▸ hmem)
    obtain ⟨fewer, -, hlinks⟩ := hfrontier.reached supertype (List.mem_cons_of_mem name hmem)
    have hpath := exists_ascends_iff.mp ⟨fewer, hlinks⟩
    exact ⟨hne, (reflTransGen_iff_eq_or_transGen.mp hpath).resolve_left hne⟩
  · rintro ⟨hne, hpath⟩
    exact (List.mem_cons.mp (hfrontier.mem_of_path hpath.to_reflTransGen)).resolve_left hne

end FlowDiagram.FactIndex
