import FlowDiagram.Fact.Basic
import FlowDiagram.Proofs.Graph.DisjointSets
import FlowDiagram.Proofs.Sequence.Turns

/-!
# The forest of disjoint sets

Parents form a forest: no item comes back to itself on the way up. The search for a root goes up to
it, then goes the same way once more and hangs whatever it meets directly below the root. Each of
the two is a loop that takes one turn after the other. Neither says how long it may run; they end
because the way up from an item shrinks with every turn.

This holds after any calls that only look up what was added, and the sets are then the classes of
the items that the unions connect.

## Main definitions

* `DisjointSets.Hangs`: an item hangs below another one; one turn on the way up.
* `DisjointSets.Shortens`: one turn of the loop that shortens a way.
* `DisjointSets.FindsRoot`: the search for a root ends, and it changes no root.
* `DisjointSets.Call`: a call on disjoint sets.
* `DisjointSets.Permitted`: calls that look up only what was added.
* `DisjointSets.Partitions`: what the sets are.

`DisjointSets.partitions_after` is the main result.
-/

namespace FlowDiagram.DisjointSets

open Relation

variable {α : Type} [DecidableEq α] [Hashable α] {sets : DisjointSets α}

/-! ## The two loops -/

/-- An item hangs below another one. The loop that looks for a root goes from the one to the
other, and stops at an item that is its own parent. -/
def Hangs (sets : DisjointSets α) (item parent : α) : Prop :=
  sets.parent? item = some parent ∧ parent ≠ item

/-- One turn of the loop that shortens a way: an item whose parent is not the root is hung below the
root, and the loop goes on with the parent that the item had. -/
inductive Shortens (root : α) : DisjointSets α × α → DisjointSets α × α → Prop
  | hang {sets : DisjointSets α} {item parent : α} (hparent : sets.parent? item = some parent)
      (hne : parent ≠ root) :
    Shortens root (sets, item) (sets.setParent item root, parent)

theorem hangs_unique (item parent other : α) (h : sets.Hangs item parent)
    (h' : sets.Hangs item other) : parent = other :=
  Option.some.inj (h.1.symm.trans h'.1)

theorem Shortens.unique {root : α} (state next other : DisjointSets α × α)
    (h : Shortens root state next) (h' : Shortens root state other) : next = other := by
  cases h with
  | hang hparent _ =>
    cases h' with
    | hang hparent' _ => rw [Option.some.inj (hparent.symm.trans hparent')]

/-- The loop that goes up stops where an item is its own parent. -/
theorem not_hangs_of_root {root : α} (h : sets.parent? root = some root) (parent : α) :
    ¬sets.Hangs root parent :=
  fun hhangs => hhangs.2 (Option.some.inj (hhangs.1.symm.trans h))

/-- The loop that shortens a way stops below the root. -/
theorem not_shortens_of_below {root item : α} (h : sets.parent? item = some root)
    (next : DisjointSets α × α) : ¬Shortens root (sets, item) next := by
  intro hturn
  cases hturn with
  | hang hparent hne => exact hne (Option.some.inj (hparent.symm.trans h))

namespace Climbs

/-- The way up from a parent is one step shorter. -/
theorem of_hangs {n : Nat} {a p r : α} (h : Climbs sets n a r) (hhangs : sets.Hangs a p) :
    ∃ m, m < n ∧ Climbs sets m p r := by
  cases h with
  | root hr => exact absurd hhangs (not_hangs_of_root hr p)
  | step hp _ rest =>
    obtain rfl := Option.some.inj (hp.symm.trans hhangs.1)
    exact ⟨_, Nat.lt_succ_self _, rest⟩

theorem of_transGen {n : Nat} {a b r : α} (h : Climbs sets n a r)
    (hup : TransGen sets.Hangs a b) : ∃ m, m < n ∧ Climbs sets m b r := by
  induction hup with
  | single hhangs => exact h.of_hangs hhangs
  | tail _ hhangs ih =>
    obtain ⟨m, hm, hclimbs⟩ := ih
    obtain ⟨k, hk, hclimbs⟩ := hclimbs.of_hangs hhangs
    exact ⟨k, by omega, hclimbs⟩

/-- The loop goes up to the root. -/
theorem run_up {n : Nat} {a r : α} (h : Climbs sets n a r) : ReflTransGen sets.Hangs a r := by
  induction h with
  | root _ => exact .refl
  | step hp hne _ ih => exact .head ⟨hp, hne⟩ ih

/-- A way stays as it is when an item that has a longer way is hung elsewhere. -/
theorem setParent_of_lt {n m : Nat} {a item r s : α} (h : Climbs sets n a r)
    (hitem : Climbs sets m item s) (hlt : n < m) (parent : α) :
    Climbs (sets.setParent item parent) n a r := by
  have hapart : ∀ {k : Nat} {b t : α}, Climbs sets k b t → k < m → item ≠ b := by
    rintro k b t hb hk rfl
    have := (hb.unique hitem).1
    omega
  induction h with
  | root hr => exact .root (by rw [parent?_setParent, if_neg (hapart (.root hr) hlt), hr])
  | step hp hne rest ih =>
    refine .step ?_ hne (ih (by omega))
    rw [parent?_setParent, if_neg (hapart (.step hp hne rest) hlt), hp]

/-- The loop shortens the way up, turn by turn, until it is below the root. -/
theorem run_compress {n steps : Nat} {item root : α} (h : Climbs sets n item root)
    (hn : n ≤ steps) :
    ∃ last, ReflTransGen (Shortens root) (sets, item) (compress root steps item sets, last) ∧
      (compress root steps item sets).parent? last = some root := by
  induction n generalizing sets item steps with
  | zero =>
    cases h with
    | root hr =>
      have hdone : compress root steps root sets = sets := by
        cases steps <;> simp [compress, hr]
      rw [hdone]
      exact ⟨root, .refl, hr⟩
  | succ n ih =>
    cases h with
    | @step _ _ parent _ hp hne rest =>
      obtain ⟨steps, rfl⟩ := Nat.exists_eq_add_of_lt (Nat.lt_of_lt_of_le n.succ_pos hn)
      rw [Nat.zero_add] at hn ⊢
      by_cases hroot : parent = root
      · have hdone : compress root (steps + 1) item sets = sets := by
          simp [compress, hp, hroot]
        rw [hdone]
        exact ⟨item, .refl, hroot ▸ hp⟩
      · have hgo : compress root (steps + 1) item sets =
            compress root steps parent (sets.setParent item root) := by
          simp [compress, hp, hroot]
        have hrest := rest.setParent_of_lt (.step hp hne rest) (Nat.lt_succ_self n) root
        obtain ⟨last, hrun, hlast⟩ := ih hrest (Nat.le_of_succ_le_succ hn)
        rw [hgo]
        exact ⟨last, .head (.hang hp hroot) hrun, hlast⟩

end Climbs

/-- No item comes back to itself on the way up. -/
theorem Sound.acyclic (h : Sound sets) (item : α) : ¬TransGen sets.Hangs item item := by
  intro hcycle
  have hitem : item ∈ sets.items := by
    obtain ⟨parent, hhangs, -⟩ := TransGen.head'_iff.mp hcycle
    exact (h.mem_items item).mpr (by simp [hhangs.1])
  obtain ⟨n, hclimbs⟩ := h.climbs_root hitem
  obtain ⟨m, hm, hclimbs'⟩ := hclimbs.of_transGen hcycle
  have := (hclimbs'.unique hclimbs).1
  omega

/-- What a search for a root does. Its first loop comes to an end, and it ends at the root. Its
second loop comes to an end as well, below the root, with the way to the root shortened. The items
are the same afterwards, and each has the root that it had. -/
structure FindsRoot (sets : DisjointSets α) (item : α) : Prop where
  up_ends : Acc (flip sets.Hangs) item
  up : ∀ top, ReflTransGen sets.Hangs item top ∧ sets.parent? top = some top ↔
    top = (sets.find item).1
  shortening_ends : Acc (flip (Shortens (sets.find item).1)) (sets, item)
  shortening : ∀ after,
    (∃ last, ReflTransGen (Shortens (sets.find item).1) (sets, item) (after, last) ∧
      after.parent? last = some (sets.find item).1) ↔ after = (sets.find item).2
  items_eq : (sets.find item).2.items = sets.items
  root_eq : ∀ other, ((sets.find item).2.find other).1 = (sets.find other).1

theorem Sound.findsRoot (h : Sound sets) {item : α} (hitem : item ∈ sets.items) :
    FindsRoot sets item := by
  obtain ⟨n, hclimbs⟩ := h.climbs_root hitem
  have hroot := hclimbs.parent?_root
  obtain ⟨hup, hup_only⟩ := ends_of_deterministic hangs_unique hclimbs.run_up
    (not_hangs_of_root hroot)
  obtain ⟨last, hrun, hlast⟩ := hclimbs.run_compress (h.length_le hclimbs)
  obtain ⟨hshort, hshort_only⟩ := ends_of_deterministic Shortens.unique hrun
    (not_shortens_of_below hlast)
  have hrefines := h.refines_find hitem
  refine ⟨hup, fun top => ⟨?_, ?_⟩, hshort, fun after => ⟨?_, ?_⟩, hrefines.items_eq,
    hrefines.root_eq⟩
  · rintro ⟨htop, hfixed⟩
    exact hup_only top htop (not_hangs_of_root hfixed)
  · rintro rfl
    exact ⟨hclimbs.run_up, hroot⟩
  · rintro ⟨other, hother, hbelow⟩
    exact congrArg Prod.fst (hshort_only _ hother (not_shortens_of_below hbelow))
  · rintro rfl
    exact ⟨last, hrun, hlast⟩

/-! ## Calls -/

/-- A call on disjoint sets. -/
inductive Call (α : Type)
  | add (item : α)
  | find (item : α)
  | union (a b : α)

namespace Call

/-- The sets after a call. -/
def perform (sets : DisjointSets α) : Call α → DisjointSets α
  | add item => sets.add item
  | find item => (sets.find item).2
  | union a b => sets.union a b

/-- The items that a call adds, unless they are there. -/
def items : Call α → List α
  | add item => [item]
  | find _ => []
  | union a b => [a, b]

/-- The pair that a call joins. -/
def pairs : Call α → List (α × α)
  | union a b => [(a, b)]
  | _ => []

end Call

/-- The sets after some calls on empty ones. -/
def after (calls : List (Call α)) : DisjointSets α :=
  calls.foldl Call.perform empty

/-- Calls that look up only what the calls before them have added. -/
inductive Permitted : List (Call α) → Prop
  | nil : Permitted []
  | add {calls : List (Call α)} (h : Permitted calls) (item : α) : Permitted (calls ++ [.add item])
  | find {calls : List (Call α)} (h : Permitted calls) {item : α}
      (hitem : item ∈ calls.flatMap Call.items) : Permitted (calls ++ [.find item])
  | union {calls : List (Call α)} (h : Permitted calls) (a b : α) :
    Permitted (calls ++ [.union a b])

/-- What every call preserves: the sets are those of the items added and the pairs joined so far. -/
structure Represents (sets : DisjointSets α) (items : List α) (pairs : List (α × α)) : Prop where
  joined : Joined sets pairs
  mem_items : ∀ x, x ∈ sets.items ↔ x ∈ items

namespace Represents

variable {items : List α} {pairs : List (α × α)}

theorem empty : Represents (DisjointSets.empty : DisjointSets α) [] [] where
  joined := .empty
  mem_items _ := Iff.rfl

theorem add (h : Represents sets items pairs) (item : α) :
    Represents (sets.add item) (items ++ [item]) pairs where
  joined := {
    sound := h.joined.sound.add item
    root_eq_iff := fun x y => by
      rw [h.joined.sound.root_add, h.joined.sound.root_add, h.joined.root_eq_iff] }
  mem_items x := by
    rw [mem_items_add h.joined.sound, h.mem_items, List.mem_append, List.mem_singleton]

theorem find (h : Represents sets items pairs) {item : α} (hitem : item ∈ items) :
    Represents (sets.find item).2 items pairs := by
  have hrefines := h.joined.sound.refines_find ((h.mem_items item).mpr hitem)
  refine ⟨⟨hrefines.sound, fun x y => ?_⟩, fun x => ?_⟩
  · rw [hrefines.root_eq, hrefines.root_eq, h.joined.root_eq_iff]
  · rw [hrefines.items_eq, h.mem_items]

theorem union (h : Represents sets items pairs) (a b : α) :
    Represents (sets.union a b) (items ++ [a, b]) (pairs ++ [(a, b)]) where
  joined := h.joined.union a b
  mem_items x := by
    rw [(h.joined.sound.joins_union a b).mem_items, h.mem_items, List.mem_append, List.mem_pair]

end Represents

theorem after_concat (calls : List (Call α)) (call : Call α) :
    after (calls ++ [call]) = call.perform (after calls) := by
  rw [after, List.foldl_append]
  rfl

theorem represents_after {calls : List (Call α)} (h : Permitted calls) :
    Represents (after calls) (calls.flatMap Call.items) (calls.flatMap Call.pairs) := by
  induction h with
  | nil => exact .empty
  | @add calls _ item ih =>
    simpa [after_concat, Call.items, Call.pairs, Call.perform] using ih.add item
  | @find calls _ item hitem ih =>
    simpa [after_concat, Call.items, Call.pairs, Call.perform] using ih.find hitem
  | @union calls _ a b ih =>
    simpa [after_concat, Call.items, Call.pairs, Call.perform] using ih.union a b

/-! ## The sets -/

/-- Joins connect two items. -/
abbrev Connected (pairs : List (α × α)) : α → α → Prop :=
  EqvGen fun a b => (a, b) ∈ pairs

/-- What disjoint sets are, given the items that were added and the pairs that were joined. Parents
form a forest, a search for the root of an item comes to an end, two items have one root exactly if
they are connected, and the groups are the classes of connected items. -/
structure Partitions (sets : DisjointSets α) (items : List α) (pairs : List (α × α)) : Prop where
  mem_items : ∀ x, x ∈ sets.items ↔ x ∈ items
  acyclic : ∀ item, ¬TransGen sets.Hangs item item
  finds : ∀ item ∈ items, FindsRoot sets item
  root_eq_iff : ∀ a ∈ items, ∀ b ∈ items,
    (sets.find a).1 = (sets.find b).1 ↔ Connected pairs a b
  group_eq : ∀ group ∈ sets.groups, ∀ a ∈ group, ∀ b,
    b ∈ group ↔ b ∈ items ∧ Connected pairs a b
  exists_group : ∀ a ∈ items, ∃ group ∈ sets.groups, a ∈ group
  ne_nil : ∀ group ∈ sets.groups, group ≠ []
  nodup : ∀ group ∈ sets.groups, group.Nodup
  disjoint : sets.groups.Pairwise List.Disjoint

theorem Represents.partitions {items : List α} {pairs : List (α × α)}
    (h : Represents sets items pairs) : Partitions sets items pairs where
  mem_items := h.mem_items
  acyclic := h.joined.sound.acyclic
  finds item hitem := h.joined.sound.findsRoot ((h.mem_items item).mpr hitem)
  root_eq_iff a _ b _ := h.joined.root_eq_iff a b
  group_eq group hgroup a ha b := by
    obtain ⟨c, -, rfl⟩ := h.joined.sound.mem_groups.mp hgroup
    have hac := of_decide_eq_true (List.mem_filter.mp ha).2
    rw [List.mem_filter, h.mem_items, decide_eq_true_eq, ← hac, eq_comm]
    exact and_congr_right fun _ => h.joined.root_eq_iff a b
  exists_group a ha := by
    have hitem := (h.mem_items a).mpr ha
    refine ⟨_, h.joined.sound.mem_groups.mpr ⟨a, hitem, rfl⟩, ?_⟩
    exact List.mem_filter.mpr ⟨hitem, decide_eq_true rfl⟩
  ne_nil group hgroup := by
    obtain ⟨a, ha, rfl⟩ := h.joined.sound.mem_groups.mp hgroup
    exact List.ne_nil_of_mem (List.mem_filter.mpr ⟨ha, decide_eq_true rfl⟩)
  nodup group hgroup := by
    obtain ⟨a, -, rfl⟩ := h.joined.sound.mem_groups.mp hgroup
    exact h.joined.sound.nodup.filter _
  disjoint := h.joined.sound.pairwise_disjoint_groups

/-- After any calls that look up only what was added, parents form a forest, so that both loops of a
search for a root come to an end, and no search changes a root. Two items have one root exactly if
the unions connect them, and the groups are the classes of this relation, each of them once. -/
theorem partitions_after {calls : List (Call α)} (h : Permitted calls) :
    Partitions (after calls) (calls.flatMap Call.items) (calls.flatMap Call.pairs) :=
  (represents_after h).partitions

/-- Calls that join three activities, two of them by way of the third, and leave one alone. -/
def waitingCalls : List (Call Name) :=
  [.union "Wait" "Check", .union "Start" "Wait", .add "Done", .find "Check"]

theorem permitted_waitingCalls : Permitted waitingCalls := by
  have hbefore : Permitted
      ([.union "Wait" "Check", .union "Start" "Wait", .add "Done"] : List (Call Name)) :=
    ((Permitted.nil.union _ _).union _ _).add _
  exact hbefore.find (by decide)

theorem partitions_after_waitingCalls :
    Permitted waitingCalls ∧
      ((after waitingCalls).find "Check").1 = ((after waitingCalls).find "Start").1 ∧
      ∃ group ∈ (after waitingCalls).groups,
        .ofString "Check" ∈ group ∧ .ofString "Start" ∈ group ∧ .ofString "Done" ∉ group := by
  have hpartitions := partitions_after permitted_waitingCalls
  have hstart : Connected (waitingCalls.flatMap Call.pairs) "Check" "Start" :=
    .symm _ _ (.trans _ (Text.ofString "Wait") _ (.rel _ _ (by decide)) (.rel _ _ (by decide)))
  have hdone : ∀ a b, Connected (waitingCalls.flatMap Call.pairs) a b →
      (a = Text.ofString "Done" ↔ b = Text.ofString "Done") := by
    intro a b h
    induction h with
    | rel a b hpair =>
      have hapart : ∀ pair ∈ waitingCalls.flatMap Call.pairs,
          pair.1 ≠ Text.ofString "Done" ∧ pair.2 ≠ Text.ofString "Done" := by decide
      exact iff_of_false (hapart _ hpair).1 (hapart _ hpair).2
    | refl _ => rfl
    | symm _ _ _ ih => exact ih.symm
    | trans _ _ _ _ _ ih ih' => exact ih.trans ih'
  obtain ⟨group, hgroup, hcheck⟩ := hpartitions.exists_group (Text.ofString "Check") (by decide)
  have hmem := hpartitions.group_eq group hgroup _ hcheck
  refine ⟨permitted_waitingCalls, ?_, group, hgroup, hcheck, ?_, fun hin => ?_⟩
  · exact (hpartitions.root_eq_iff _ (by decide) _ (by decide)).mpr hstart
  · exact (hmem _).mpr ⟨by decide, hstart⟩
  · exact absurd ((hdone _ _ ((hmem _).mp hin).2).mpr rfl) (by decide)

end FlowDiagram.DisjointSets
