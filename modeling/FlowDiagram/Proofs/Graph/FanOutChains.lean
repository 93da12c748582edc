import FlowDiagram.Proofs.Flow.Completion
import FlowDiagram.Proofs.Graph.VisitOrder

/-!
# The chains that fan-outs start

A chain follows single successors from the target of a fan-out on. What it takes is free: it is in
no cycle cluster and in no earlier group. A chain that came back to itself would be part of a cycle,
and a cycle lies in a cluster, so in a flow no chain ends for that reason, and the activity that
starts a chain is not in it.

## Main definitions

* `OnlySuccessor`: every edge out of a node leads to one and the same node.
* `IterationGroup.Turn`: one turn of the loop that follows a chain.
* `IterationGroup.IsMaximalChain`: what the group of a fan-out is, given the groups before it.

`Walk.maximalChains_along` is the main result.
-/

namespace FlowDiagram

open Relation

/-! ## Single successors -/

/-- Edges lead from a node to one other and nowhere else. -/
def OnlySuccessor (edges : List Edge) (v w : Name) : Prop :=
  Arrow edges v w ∧ ∀ u, Arrow edges v u → u = w

theorem successors_eq_singleton_iff {edges : List Edge} {v w : Name} :
    (Adjacency.ofEdges edges).successors v = [w] ↔ OnlySuccessor edges v w := by
  have hmem : ∀ u, u ∈ (Adjacency.ofEdges edges).successors v ↔ Arrow edges v u :=
    fun u => Adjacency.leads_ofEdges
  constructor
  · intro h
    simp only [h, List.mem_singleton] at hmem
    exact ⟨(hmem w).mp rfl, fun u hu => (hmem u).mpr hu⟩
  · rintro ⟨harrow, honly⟩
    have hnodup := Adjacency.nodup_successors_ofEdges edges v
    cases hlist : (Adjacency.ofEdges edges).successors v with
    | nil => exact absurd ((hmem w).mpr harrow) (hlist ▸ List.not_mem_nil)
    | cons first rest =>
      rw [hlist] at hnodup
      have hfirst : first = w := honly _ ((hmem _).mp (hlist ▸ List.mem_cons_self))
      have hrest : rest = [] := by
        refine List.eq_nil_iff_forall_not_mem.mpr fun u hu => ?_
        have huw : u = w := honly _ ((hmem _).mp (hlist ▸ List.mem_cons_of_mem _ hu))
        exact (List.nodup_cons.mp hnodup).1 (hfirst.trans huw.symm ▸ hu)
      rw [hfirst, hrest]

/-- A chain of arrows leads from its first node to each of its nodes. -/
theorem path_of_mem_chain {edges : List Edge} {chain : List Name} {start v : Name}
    (hchain : chain.IsChain (OnlySuccessor edges)) (hstart : chain.head? = some start)
    (hv : v ∈ chain) : ReflTransGen (Arrow edges) start v := by
  have hlast := List.getLast?_eq_some_getLast (List.ne_nil_of_mem hv)
  exact (Search.path_through hstart hlast (hchain.imp fun _ _ h => h.1) hv).1

namespace IterationGroup

/-! ## The loop -/

variable {edges : List Edge} {taken : List Name}

/-- One turn of the loop that follows a chain: the only successor of the last activity is appended
if it is free. -/
inductive Turn (edges : List Edge) (taken : List Name) :
    List Name × Name → List Name × Name → Prop
  | go {chain : List Name} {current next : Name} (honly : OnlySuccessor edges current next)
      (hend : next ≠ endNode) (hfree : next ∉ taken) (hnew : next ∉ chain) :
    Turn edges taken (chain, current) (chain ++ [next], next)

/-- The loop comes to an end. -/
theorem acc_turn (edges : List Edge) (taken : List Name) (state : List Name × Name) :
    Acc (flip (Turn edges taken)) state := by
  let left (state : List Name × Name) : Nat :=
    (unseen (Adjacency.ofEdges edges).targets state.1.contains).length
  refine (Subrelation.wf (fun {next state} h => ?_) (InvImage.wf left Nat.lt_wfRel.wf)).apply state
  cases h with
  | go honly _ _ hnew =>
    exact length_unseen_append_lt (Adjacency.mem_targets_ofEdges.mpr ⟨_, honly.1⟩) hnew

/-- A loop with no turn to take has ended. -/
theorem turns_iff_of_stuck {chain result : List Name} {current : Name}
    (hstuck : ∀ next, ¬Turn edges taken (chain, current) next) :
    (∃ last, ReflTransGen (Turn edges taken) (chain, current) (result, last) ∧
        ∀ next, ¬Turn edges taken (result, last) next) ↔
      result = chain := by
  constructor
  · rintro ⟨last, hturns, -⟩
    rcases hturns.cases_head with heq | ⟨state, hturn, -⟩
    · exact (congrArg Prod.fst heq).symm
    · exact absurd hturn (hstuck state)
  · rintro rfl
    exact ⟨current, .refl, hstuck⟩

/-- The loop ends, and what it has found then is the chain as far as it can be followed. -/
theorem turns_iff {chain result : List Name} {current : Name} :
    (∃ last, ReflTransGen (Turn edges taken) (chain, current) (result, last) ∧
        ∀ next, ¬Turn edges taken (result, last) next) ↔
      result = extend (Adjacency.ofEdges edges) taken chain current := by
  fun_induction extend (Adjacency.ofEdges edges) taken chain current with
  | case1 chain current next hnext hstop =>
    refine turns_iff_of_stuck ?_
    rintro _ ⟨honly, hend, hfree, hnew⟩
    obtain rfl := (successors_eq_singleton_iff.mp hnext).2 _ honly.1
    rcases hstop with heq | hmem | hmem
    · exact hend heq
    · exact hfree hmem
    · exact hnew hmem
  | case2 chain current next hnext hgo ih =>
    have honly := successors_eq_singleton_iff.mp hnext
    have hturn : Turn edges taken (chain, current) (chain ++ [next], next) :=
      .go honly (fun h => hgo (.inl h)) (fun h => hgo (.inr (.inl h)))
        (fun h => hgo (.inr (.inr h)))
    rw [← ih]
    constructor
    · rintro ⟨last, hturns, hstuck⟩
      refine ⟨last, ?_, hstuck⟩
      rcases hturns.cases_head with heq | ⟨state, hother, hturns⟩
      · obtain ⟨rfl, rfl⟩ := Prod.mk.inj heq
        exact absurd hturn (hstuck _)
      · obtain ⟨hother, -, -, -⟩ := hother
        obtain rfl := honly.2 _ hother.1
        exact hturns
    · rintro ⟨last, hturns, hstuck⟩
      exact ⟨last, .head hturn hturns, hstuck⟩
  | case3 chain current hnext =>
    refine turns_iff_of_stuck ?_
    rintro _ ⟨honly, -, -, -⟩
    exact hnext _ (successors_eq_singleton_iff.mpr honly)

/-- What every turn preserves: a chain of single successors from its start to where it has come,
all of them free. -/
structure Following (edges : List Edge) (taken : List Name) (start : Name)
    (state : List Name × Name) : Prop where
  head? : state.1.head? = some start
  getLast? : state.1.getLast? = some state.2
  linked : state.1.IsChain (OnlySuccessor edges)
  nodup : state.1.Nodup
  free : ∀ v ∈ state.1, v ∉ taken
  inner : ∀ v ∈ state.1.tail, v ≠ endNode

theorem Following.start {start : Name} (hfree : start ∉ taken) :
    Following edges taken start ([start], start) where
  head? := rfl
  getLast? := rfl
  linked := List.isChain_singleton start
  nodup := List.nodup_singleton start
  free := List.forall_mem_singleton.mpr hfree
  inner := fun _ hv => absurd hv List.not_mem_nil

theorem Following.turn {start : Name} {state next : List Name × Name}
    (h : Following edges taken start state) (hturn : Turn edges taken state next) :
    Following edges taken start next := by
  obtain ⟨honly, hend, hfree, hnew⟩ := hturn
  have hne := List.ne_nil_of_mem (List.mem_of_mem_head? h.head?)
  refine ⟨?_, ?_, ?_, ?_, ?_, ?_⟩
  · rw [List.head?_append, h.head?]
    rfl
  · exact List.getLast?_concat
  · refine h.linked.append (List.isChain_singleton _) ?_
    intro last hlast first hfirst
    rw [h.getLast?] at hlast
    obtain rfl := Option.some.inj hlast
    obtain rfl := Option.some.inj hfirst
    exact honly
  · refine List.nodup_append.mpr ⟨h.nodup, List.nodup_singleton _, ?_⟩
    rintro v hv w hw rfl
    exact hnew (List.mem_singleton.mp hw ▸ hv)
  · exact List.forall_mem_append.mpr ⟨h.free, List.forall_mem_singleton.mpr hfree⟩
  · rw [List.tail_append_of_ne_nil hne]
    exact List.forall_mem_append.mpr ⟨h.inner, List.forall_mem_singleton.mpr hend⟩

theorem Following.turns {start : Name} {state next : List Name × Name}
    (h : Following edges taken start state)
    (hturns : ReflTransGen (Turn edges taken) state next) : Following edges taken start next := by
  induction hturns with
  | refl => exact h
  | tail _ hturn ih => exact ih.turn hturn

/-- A chain that is followed from a free activity on ends where it must: what would come next is the
end, is taken, or is in the chain. -/
theorem exists_following_extend (edges : List Edge) {start : Name} (hfree : start ∉ taken) :
    ∃ last, Following edges taken start
        (extend (Adjacency.ofEdges edges) taken [start] start, last) ∧
      ∀ next, OnlySuccessor edges last next → next = endNode ∨ next ∈ taken ∨
        next ∈ extend (Adjacency.ofEdges edges) taken [start] start := by
  obtain ⟨last, hturns, hstuck⟩ := turns_iff.mpr
    (rfl : extend (Adjacency.ofEdges edges) taken [start] start = _)
  refine ⟨last, (Following.start hfree).turns hturns, fun next honly => ?_⟩
  by_contra hgo
  rw [not_or, not_or] at hgo
  exact hstuck _ (.go honly hgo.1 hgo.2.1 hgo.2.2)

/-! ## Groups -/

/-- The group of a fan-out: a chain of at least two activities, each the only successor of the one
before it, from the target of the fan-out on. It takes no activity twice, none of a cluster, neither
the end nor the activity that fans out, and it cannot be followed further without coming to the end,
to a cluster or to an earlier group. -/
structure IsMaximalChain (edges : List Edge) (clusters : List Cluster)
    (earlier : List IterationGroup) (group : IterationGroup) : Prop where
  long : 2 ≤ group.members.length
  nodup : group.members.Nodup
  unclustered : ∀ cluster ∈ clusters, List.Disjoint group.members cluster
  endNode_not_mem : endNode ∉ group.members
  trigger_not_mem : group.trigger ∉ group.members
  started : ∃ edge ∈ edges, edge.isFanOut = true ∧ edge.source = group.trigger ∧
    group.members.head? = some edge.target
  linked : group.members.IsChain (OnlySuccessor edges)
  maximal : ∀ last ∈ group.members.getLast?, ∀ next, OnlySuccessor edges last next →
    next = endNode ∨ (∃ cluster ∈ clusters, next ∈ cluster) ∨
      ∃ other ∈ earlier, next ∈ other.members

/-- An edge adds its chain to the groups, or it adds nothing: it is no fan-out, its target is taken,
or its chain is too short. -/
theorem addFrom_cases (graph : Adjacency) (taken : List Name) (groups : List IterationGroup)
    (edge : Edge) :
    (addFrom graph (taken, groups) edge = (taken, groups) ∧
        (edge.isFanOut = true → edge.target ∉ taken →
          (extend graph taken [edge.target] edge.target).length ≤ 1)) ∨
      (edge.isFanOut = true ∧ edge.target ∉ taken ∧
        1 < (extend graph taken [edge.target] edge.target).length ∧
        addFrom graph (taken, groups) edge =
          (taken ++ extend graph taken [edge.target] edge.target,
            groups ++ [⟨edge.source, extend graph taken [edge.target] edge.target⟩])) := by
  unfold addFrom
  dsimp only
  split
  · rename_i hskip
    refine Or.inl ⟨rfl, fun hfan hfree => ?_⟩
    simp [hfan, hfree] at hskip
  · rename_i hstart
    rw [Bool.or_eq_true, not_or, Bool.not_eq_true', Bool.not_eq_false, List.contains_iff_mem]
      at hstart
    split
    · rename_i hlong
      exact Or.inr ⟨hstart.1, hstart.2, hlong, rfl⟩
    · rename_i hshort
      exact Or.inl ⟨rfl, fun _ _ => Nat.le_of_not_lt hshort⟩

/-- Every cycle of some edges lies in a cluster, and no edge leads out of the end. -/
structure Clustered (edges : List Edge) (clusters : List Cluster) : Prop where
  cycle : ∀ v, TransGen (Arrow edges) v v → v ∈ clusters.flatten
  end_sink : ∀ w, ¬Arrow edges endNode w

variable {clusters : List Cluster} {groups : List IterationGroup}

/-- The chain of a fan-out to a free activity is maximal. -/
theorem isMaximalChain_extend (hclustered : Clustered edges clusters)
    (htaken : taken = clusters.flatten ++ groups.flatMap (·.members)) {edge : Edge}
    (hedge : edge ∈ edges) (hfan : edge.isFanOut = true) (hfree : edge.target ∉ taken)
    (hlong : 1 < (extend (Adjacency.ofEdges edges) taken [edge.target] edge.target).length) :
    IsMaximalChain edges clusters groups
      ⟨edge.source, extend (Adjacency.ofEdges edges) taken [edge.target] edge.target⟩ := by
  obtain ⟨last, hfollowing, hstop⟩ := exists_following_extend edges hfree
  generalize extend (Adjacency.ofEdges edges) taken [edge.target] edge.target = chain at *
  have hlast : chain.getLast? = some last := hfollowing.getLast?
  have hfirst : ∀ v ∈ chain, ReflTransGen (Arrow edges) edge.target v := fun v hv =>
    path_of_mem_chain hfollowing.linked hfollowing.head? hv
  have hacyclic : ∀ v ∈ chain, ¬TransGen (Arrow edges) v v := by
    intro v hv hcycle
    refine hfollowing.free v hv ?_
    rw [htaken]
    exact List.mem_append_left _ (hclustered.cycle v hcycle)
  have hstart : edge.target ∈ chain := List.mem_of_mem_head? hfollowing.head?
  refine ⟨hlong, hfollowing.nodup, ?_, ?_, ?_, ⟨edge, hedge, hfan, rfl, hfollowing.head?⟩,
    hfollowing.linked, ?_⟩
  · intro cluster hcluster v hv hmem
    refine hfollowing.free v hv ?_
    rw [htaken]
    exact List.mem_append_left _ (List.mem_flatten.mpr ⟨cluster, hcluster, hmem⟩)
  · -- Only the first activity could be the end, but the chain goes on from there.
    intro hend
    match hchain : chain, hlong with
    | first :: second :: rest, _ =>
      rcases List.mem_cons.mp hend with heq | htail
      · have harrow := (List.isChain_cons_cons.mp hfollowing.linked).1.1
        exact hclustered.end_sink second (heq ▸ harrow)
      · exact hfollowing.inner endNode htail rfl
  · intro htrigger
    have harrow : Arrow edges edge.source edge.target := arrow_iff.mpr ⟨edge, hedge, rfl, rfl⟩
    exact hacyclic _ hstart (TransGen.tail' (hfirst _ htrigger) harrow)
  · intro end' hend' next honly
    rw [hlast] at hend'
    obtain rfl := Option.some.inj hend'
    rcases hstop next honly with hend | hmem | hmem
    · exact Or.inl hend
    · rw [htaken, List.mem_append, List.mem_flatten, List.mem_flatMap] at hmem
      exact Or.inr hmem
    · -- A chain that comes back to one of its activities closes a cycle.
      have hback : ReflTransGen (Arrow edges) next last :=
        (Search.path_through hfollowing.head? hlast (hfollowing.linked.imp fun _ _ h => h.1) hmem).2
      exact absurd (TransGen.tail' hback honly.1) (hacyclic next hmem)

/-- Where a list is split that an item was appended to: in front of this item, or before. -/
theorem split_concat {α : Type} {items earlier later : List α} {last item : α}
    (h : items ++ [last] = earlier ++ item :: later) :
    (earlier = items ∧ item = last) ∨ ∃ rest, items = earlier ++ item :: rest := by
  rcases List.eq_nil_or_concat later with rfl | ⟨rest, other, rfl⟩
  · obtain ⟨hitems, hlast⟩ := List.append_inj' h rfl
    exact Or.inl ⟨hitems.symm, (List.head_eq_of_cons_eq hlast).symm⟩
  · rw [List.concat_eq_append, ← List.cons_append, ← List.append_assoc] at h
    exact Or.inr ⟨rest, (List.append_inj' h rfl).1⟩

/-- The groups that the first edges have added: each is a maximal chain beside those before it, what
is taken is in a cluster or in a group, and every fan-out so far whose chain could go on has been
taken into a group, or what follows its target has. -/
structure Traced (edges : List Edge) (clusters : List Cluster) (seen : List Edge)
    (state : List Name × List IterationGroup) : Prop where
  taken_eq : state.1 = clusters.flatten ++ state.2.flatMap (·.members)
  maximal : ∀ earlier group later, state.2 = earlier ++ group :: later →
    IsMaximalChain edges clusters earlier group
  covered : ∀ edge ∈ seen, edge.isFanOut = true → ∀ next, OnlySuccessor edges edge.target next →
    next ≠ endNode → edge.target ∈ state.1 ∨ next ∈ state.1

theorem Traced.start (edges : List Edge) (clusters : List Cluster) :
    Traced edges clusters [] (clusters.flatten, []) where
  taken_eq := (List.append_nil _).symm
  maximal := by simp
  covered := fun _ hedge => absurd hedge List.not_mem_nil

/-- A chain of one activity was left because of what follows. -/
theorem eq_endNode_or_mem_of_short (hclustered : Clustered edges clusters)
    (htaken : clusters.flatten ⊆ taken) {start next : Name} (hfree : start ∉ taken)
    (honly : OnlySuccessor edges start next)
    (hshort : (extend (Adjacency.ofEdges edges) taken [start] start).length ≤ 1) :
    next = endNode ∨ next ∈ taken := by
  obtain ⟨more, hmore⟩ := prefix_extend (Adjacency.ofEdges edges) taken [start] start
  have hnil : more = [] := by
    rw [← hmore, List.length_append, List.length_singleton] at hshort
    exact List.length_eq_zero_iff.mp (by omega)
  obtain ⟨last, hfollowing, hstop⟩ := exists_following_extend edges hfree
  rw [← hmore, hnil, List.append_nil] at hfollowing hstop
  obtain rfl : start = last := Option.some.inj hfollowing.getLast?
  rcases hstop next honly with hend | hmem | hmem
  · exact Or.inl hend
  · exact Or.inr hmem
  · rw [List.mem_singleton] at hmem
    exact absurd (htaken (hclustered.cycle start (.single (hmem ▸ honly.1)))) hfree

theorem Traced.addFrom (hclustered : Clustered edges clusters) {seen : List Edge}
    {state : List Name × List IterationGroup} (h : Traced edges clusters seen state) {edge : Edge}
    (hedge : edge ∈ edges) :
    Traced edges clusters (seen ++ [edge]) (addFrom (Adjacency.ofEdges edges) state edge) := by
  obtain ⟨taken, groups⟩ := state
  have htaken : taken = clusters.flatten ++ groups.flatMap (·.members) := h.taken_eq
  rcases addFrom_cases (Adjacency.ofEdges edges) taken groups edge with
    ⟨heq, hskip⟩ | ⟨hfan, hfree, hlong, heq⟩
  · rw [heq]
    refine ⟨h.taken_eq, h.maximal, List.forall_mem_append.mpr ⟨h.covered, ?_⟩⟩
    refine List.forall_mem_singleton.mpr fun hfan next honly hend => ?_
    by_cases hfree : edge.target ∈ taken
    · exact Or.inl hfree
    · have hclusters : clusters.flatten ⊆ taken := htaken ▸ List.subset_append_left _ _
      have hnext := eq_endNode_or_mem_of_short hclustered hclusters hfree honly (hskip hfan hfree)
      exact Or.inr (hnext.resolve_left hend)
  · rw [heq]
    have hgroup := isMaximalChain_extend hclustered htaken hedge hfan hfree hlong
    obtain ⟨more, hmore⟩ := prefix_extend (Adjacency.ofEdges edges) taken [edge.target] edge.target
    refine ⟨?_, fun earlier group later hsplit => ?_, List.forall_mem_append.mpr ⟨?_, ?_⟩⟩
    · simp [htaken]
    · rcases split_concat hsplit with ⟨rfl, rfl⟩ | ⟨rest, hgroups⟩
      · exact hgroup
      · exact h.maximal earlier group rest hgroups
    · intro other hother hfan' next honly hend
      exact (h.covered other hother hfan' next honly hend).imp (List.mem_append_left _)
        (List.mem_append_left _)
    · refine List.forall_mem_singleton.mpr fun _ next _ _ => Or.inl (List.mem_append_right _ ?_)
      rw [← hmore]
      exact List.mem_append_left _ List.mem_cons_self

theorem Traced.foldl (hclustered : Clustered edges clusters) {pending : List Edge}
    (hpending : pending ⊆ edges) {seen : List Edge} {state : List Name × List IterationGroup}
    (h : Traced edges clusters seen state) :
    Traced edges clusters (seen ++ pending)
      (pending.foldl (IterationGroup.addFrom (Adjacency.ofEdges edges)) state) := by
  induction pending generalizing seen state with
  | nil => rwa [List.append_nil]
  | cons edge pending ih =>
    obtain ⟨hedge, hpending⟩ := List.cons_subset.mp hpending
    rw [List.append_cons]
    exact ih hpending (h.addFrom hclustered hedge)

/-- The groups of edges whose cycles lie in clusters are maximal chains, and a fan-out that starts
no group of its own leads into one, or what follows does, unless the end or a cluster is next. -/
theorem maximalChains_ofEdges (hclustered : Clustered edges clusters) :
    (∀ earlier group later, ofEdges edges clusters = earlier ++ group :: later →
        IsMaximalChain edges clusters earlier group) ∧
      ∀ edge ∈ edges, edge.isFanOut = true → edge.target ∉ clusters.flatten →
        ∀ next, OnlySuccessor edges edge.target next → next ≠ endNode →
          next ∉ clusters.flatten →
          ∃ group ∈ ofEdges edges clusters, edge.target ∈ group.members ∨ next ∈ group.members := by
  have h := (Traced.start edges clusters).foldl hclustered (List.Subset.refl edges)
  refine ⟨h.maximal, fun edge hedge hfan htarget next honly hend hnext => ?_⟩
  have hcovered := h.covered edge (List.mem_append_right _ hedge) hfan next honly hend
  rw [h.taken_eq, List.mem_append, List.mem_append, List.mem_flatMap, List.mem_flatMap] at hcovered
  rcases hcovered with (hmem | ⟨group, hgroup, hmem⟩) | (hmem | ⟨group, hgroup, hmem⟩)
  · exact absurd hmem htarget
  · exact ⟨group, hgroup, Or.inl hmem⟩
  · exact absurd hmem hnext
  · exact ⟨group, hgroup, Or.inr hmem⟩

/-- No two groups beside clusters that share no member have one in common. -/
theorem pairwise_disjoint_ofEdges (edges : List Edge) (hclusters : clusters.flatten.Nodup) :
    (ofEdges edges clusters).Pairwise fun a b => List.Disjoint a.members b.members := by
  obtain ⟨taken, hchains⟩ := exists_chains_ofEdges edges hclusters
  have htaken : taken = clusters.flatten ++ (ofEdges edges clusters).flatMap (·.members) :=
    hchains.taken_eq
  have hnodup : taken.Nodup := hchains.nodup
  rw [htaken, List.flatMap_def] at hnodup
  have hgroups := (List.nodup_flatten.mp (List.nodup_append.mp hnodup).2.1).2
  rwa [List.pairwise_map] at hgroups

end IterationGroup

/-! ## Walks -/

namespace Walk

/-- All cycles of a walk lie in its clusters, and no edge leads out of the end. -/
theorem clustered_along {index : FactIndex} (hkeyed : index.Keyed) (options : DrawingOptions)
    {entry : Name} (hentry : entry ≠ endNode) :
    IterationGroup.Clustered (along index options entry).edges
      (CycleAnalysis.ofEdges entry (along index options entry).edges).clusters where
  cycle _ hv := List.mem_flatten.mpr (CycleAnalysis.exists_cluster_of_transGen hv)
  end_sink _ harrow :=
    endNode_not_mem_visited options hentry (source_mem_visited options hkeyed harrow)

/-- The iteration groups of a walk over any facts, unless it starts at the end of the flow. Each of
them is the chain of a fan-out, as far as it can be followed, no two of them share an activity, and
every fan-out leads into one if its target could be part of a chain: the target itself or what comes
after it is in a group. The loop that follows a chain ends on all edges, whatever is taken. -/
theorem maximalChains_along (classes : List ClassFact) (processors : List ProcessorFact)
    (options : DrawingOptions) {entry : Name} (hentry : entry ≠ endNode) :
    let edges := (along (FactIndex.build classes processors) options entry).edges
    let clusters := (CycleAnalysis.ofEdges entry edges).clusters
    let groups := IterationGroup.ofEdges edges clusters
    (∀ earlier group later, groups = earlier ++ group :: later →
        IterationGroup.IsMaximalChain edges clusters earlier group) ∧
      (groups.Pairwise fun a b => List.Disjoint a.members b.members) ∧
      (∀ edge ∈ edges, edge.isFanOut = true → (∀ cluster ∈ clusters, edge.target ∉ cluster) →
        ∀ next, OnlySuccessor edges edge.target next → next ≠ endNode →
          (∀ cluster ∈ clusters, next ∉ cluster) →
          ∃ group ∈ groups, edge.target ∈ group.members ∨ next ∈ group.members) ∧
      ∀ (others : List Edge) (taken chain : List Name) (current : Name),
        Acc (flip (IterationGroup.Turn others taken)) (chain, current) ∧
          ∀ result, (∃ last, ReflTransGen (IterationGroup.Turn others taken) (chain, current)
                (result, last) ∧ ∀ next, ¬IterationGroup.Turn others taken (result, last) next) ↔
            result = IterationGroup.extend (Adjacency.ofEdges others) taken chain current := by
  intro edges clusters groups
  have hkeyed : (FactIndex.build classes processors).Keyed :=
    FactIndex.keyed_build classes processors
  have hclustered : IterationGroup.Clustered edges clusters :=
    clustered_along hkeyed options hentry
  obtain ⟨hmaximal, hcovered⟩ := IterationGroup.maximalChains_ofEdges hclustered
  refine ⟨hmaximal, ?_, ?_, fun others taken chain current => ⟨?_, fun result => ?_⟩⟩
  · exact IterationGroup.pairwise_disjoint_ofEdges edges
      (CycleAnalysis.nodup_flatten_clusters entry edges)
  · intro edge hedge hfan htarget next honly hend hnext
    have hflat : ∀ {v : Name}, (∀ cluster ∈ clusters, v ∉ cluster) → v ∉ clusters.flatten := by
      intro v hv hmem
      obtain ⟨cluster, hcluster, hmem⟩ := List.mem_flatten.mp hmem
      exact hv cluster hcluster hmem
    exact hcovered edge hedge hfan (hflat htarget) next honly hend (hflat hnext)
  · exact IterationGroup.acc_turn others taken _
  · exact IterationGroup.turns_iff

/-- A closed claim is reported and archived at once. -/
def reporting : Transition where
  target := none
  condition := none
  isFeatureFlagged := false
  featureFlagName := none
  fanOutTargets := ["Report", "Archive"]
  single_xor_fanOut := by decide

/-- Closing a claim fans out. -/
def fanOutProcessor : ProcessorFact :=
  processorOf "Close" [reporting] (by decide)

/-- A report is sent. -/
def reportProcessor : ProcessorFact :=
  processorOf "Report" [transitionTo "Send" (by decide)] (by decide)

/-- The facts of a flow with a chain of two activities. -/
def reportIndex : FactIndex :=
  FactIndex.build [] [fanOutProcessor, reportProcessor]

/-- The activities of the flow, in an order that all its edges keep to. -/
def reportOrder : List Name :=
  ["Close", "Report", "Send", "Archive"]

theorem edges_report :
    (along reportIndex .standard "Close").edges =
      edgesOf .standard fanOutProcessor ++ edgesOf .standard reportProcessor := by
  have hclose : reportIndex.processor? "Close" = some fanOutProcessor := by decide
  have hreport : reportIndex.processor? "Report" = some reportProcessor := by decide
  have hsend : reportIndex.processor? "Send" = none := by decide
  have harchive : reportIndex.processor? "Archive" = none := by decide
  have hafterClose : activitiesAfter (edgesOf .standard fanOutProcessor) ++ [] =
      (["Report", "Archive"] : List Name) := by decide
  have hafterReport :
      activitiesAfter (edgesOf .standard reportProcessor) ++ [Text.ofString "Archive"] =
        (["Send", "Archive"] : List Name) := by decide
  rw [along, continueFrom_of_some List.not_mem_nil hclose, hafterClose,
    continueFrom_of_some (by decide) hreport, hafterReport,
    continueFrom_of_none (by decide) hsend, continueFrom_of_none (by decide) harchive,
    continueFrom_nil]
  rfl

/-- The flow has no cycle, so it has no cluster either. -/
theorem not_mem_cluster_report {cluster : Cluster}
    (hcluster : cluster ∈ (CycleAnalysis.ofEdges "Close"
      (along reportIndex .standard "Close").edges).clusters) (v : Name) : v ∉ cluster := by
  intro hv
  have hcycle := (CycleAnalysis.mem_cluster hcluster hv).1
  have hordered : ∀ ends ∈ (along reportIndex .standard "Close").edges.map Edge.ends,
      reportOrder.idxOf ends.1 < reportOrder.idxOf ends.2 := by
    rw [edges_report]
    decide
  have hlt : ∀ {w}, TransGen (Arrow (along reportIndex .standard "Close").edges) v w →
      reportOrder.idxOf v < reportOrder.idxOf w := by
    intro w hpath
    induction hpath with
    | single harrow => exact hordered _ harrow
    | tail _ harrow ih => exact ih.trans (hordered _ harrow)
  exact Nat.lt_irrefl _ (hlt hcycle)

/-- The report, or its sending, is in a group. -/
theorem maximalChains_along_report :
    Text.ofString "Close" ≠ endNode ∧
      ∃ group ∈ IterationGroup.ofEdges (along reportIndex .standard "Close").edges
          (CycleAnalysis.ofEdges "Close" (along reportIndex .standard "Close").edges).clusters,
        Text.ofString "Report" ∈ group.members ∨ Text.ofString "Send" ∈ group.members := by
  have hentry : Text.ofString "Close" ≠ endNode := by decide
  refine ⟨hentry, ?_⟩
  obtain ⟨-, -, hcovered, -⟩ :=
    maximalChains_along [] [fanOutProcessor, reportProcessor] .standard hentry
  have honly : ∀ ends ∈ (along reportIndex .standard "Close").edges.map Edge.ends,
      ends.1 = "Report" → ends.2 = "Send" := by
    rw [edges_report]
    decide
  have harrow : Arrow (along reportIndex .standard "Close").edges "Report" "Send" := by
    rw [edges_report, arrow_iff]
    decide
  have hfan : ∃ edge ∈ (along reportIndex .standard "Close").edges,
      edge.isFanOut = true ∧ edge.target = "Report" := by
    rw [edges_report]
    decide
  obtain ⟨edge, hedge, hfan, htarget⟩ := hfan
  have hgroup := hcovered edge hedge hfan (fun _ h => not_mem_cluster_report h _) "Send"
    ⟨htarget ▸ harrow, fun u hu => honly _ hu htarget⟩ (by decide)
    (fun _ h => not_mem_cluster_report h _)
  rwa [htarget] at hgroup

end Walk

end FlowDiagram
