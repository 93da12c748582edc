import FlowDiagram.Proofs.Graph.BackEdges
import FlowDiagram.Proofs.Graph.DisjointSets
import Mathlib.Data.Set.Defs

/-!
# Strongly connected components

The clusters of a flow are the strongly connected components of its graph that hold a cycle. A cycle
that a back edge closes lies in one component, so do cycles that were joined, and a group of them
grows to the whole component. Every component that holds a cycle is found, since every cycle has a
back edge.

## Main definitions

* `Mutual`: two nodes lead to one another.
* `IsComponent`, `HoldsCycle`: the components, and those among them that count.
* `DiscoveryOrder`: the order in which a recursive search from the entry meets the nodes.
* `Clustering`: clusters that are the components with a cycle, in this order.
-/

namespace FlowDiagram

open Relation

/-! ## Components -/

/-- Arrows lead from each of two nodes to the other. -/
def Mutual (edges : List Edge) (v w : Name) : Prop :=
  ReflTransGen (Arrow edges) v w ∧ ReflTransGen (Arrow edges) w v

/-- A strongly connected component: the nodes that a node leads to and that lead to it. -/
def IsComponent (edges : List Edge) (members : Set Name) : Prop :=
  ∃ v, members = {w | Mutual edges v w}

/-- A component holds a cycle if it has two nodes or a node with an arrow to itself. -/
def HoldsCycle (edges : List Edge) (members : Set Name) : Prop :=
  (∃ v ∈ members, ∃ w ∈ members, v ≠ w) ∨ ∃ v ∈ members, Arrow edges v v

/-- The order in which a recursive depth-first search meets the nodes of some edges: it starts from
the entry, then from every source of an edge, and looks at the targets of a node in the order in
which they first appear. -/
def DiscoveryOrder (entry : Name) (edges : List Edge) (discovered : List Name) : Prop :=
  Visits (Adjacency.targetsFrom edges) [] (entry :: distinct (edges.map (·.source))) discovered

/-- Clusters that are the components with a cycle, each with its members in the order of their
discovery, and in the order in which their first members were discovered. -/
structure Clustering (entry : Name) (edges : List Edge) (clusters : List Cluster) : Prop where
  component : ∀ cluster ∈ clusters,
    IsComponent edges {v | v ∈ cluster} ∧ HoldsCycle edges {v | v ∈ cluster}
  complete : ∀ members, IsComponent edges members → HoldsCycle edges members →
    ∃! cluster, cluster ∈ clusters ∧ {v | v ∈ cluster} = members
  disjoint : clusters.Pairwise List.Disjoint
  nodup : ∀ cluster ∈ clusters, cluster.Nodup
  ordered : ∃ discovered, DiscoveryOrder entry edges discovered ∧
    (∀ cluster ∈ clusters, cluster ⊆ discovered ∧
      cluster.Pairwise fun v w => discovered.idxOf v < discovered.idxOf w) ∧
    clusters.Pairwise fun a b =>
      ∀ v ∈ a.head?, ∀ w ∈ b.head?, discovered.idxOf v < discovered.idxOf w

variable {edges : List Edge}

theorem equivalence_mutual (edges : List Edge) : Equivalence (Mutual edges) where
  refl _ := ⟨.refl, .refl⟩
  symm h := ⟨h.2, h.1⟩
  trans h h' := ⟨h.1.trans h'.1, h'.2.trans h.2⟩

theorem Mutual.symm {v w : Name} (h : Mutual edges v w) : Mutual edges w v :=
  (equivalence_mutual edges).symm h

theorem Mutual.trans {u v w : Name} (h : Mutual edges u v) (h' : Mutual edges v w) :
    Mutual edges u w :=
  (equivalence_mutual edges).trans h h'

/-- A node is in a component that holds a cycle if a cycle leads through it. -/
theorem holdsCycle_iff {v : Name} :
    HoldsCycle edges {w | Mutual edges v w} ↔ TransGen (Arrow edges) v v := by
  constructor
  · rintro (⟨a, ha, b, hb, hne⟩ | ⟨a, ha, hself⟩)
    · -- One of two different nodes is not the given one, which leads there and back.
      have hab := Mutual.trans (Mutual.symm ha) hb
      rcases reflTransGen_iff_eq_or_transGen.mp hab.1 with heq | hpath
      · exact absurd heq.symm hne
      · exact (TransGen.trans_right ha.1 hpath).trans_left hb.2
    · exact (TransGen.trans_right ha.1 (.single hself)).trans_left ha.2
  · intro hcycle
    obtain ⟨w, harrow, hback⟩ := TransGen.head'_iff.mp hcycle
    by_cases hw : w = v
    · subst hw
      exact Or.inr ⟨w, ⟨.refl, .refl⟩, harrow⟩
    · exact Or.inl ⟨v, ⟨.refl, .refl⟩, w, ⟨.single harrow, hback⟩, Ne.symm hw⟩

/-! ## Cycles that back edges close -/

namespace Search

variable (entry : Name) (edges : List Edge)

/-- Arrows lead from the first node of a sequence to any of its nodes, and from there to the last.
-/
theorem path_through {arrow : Name → Name → Prop} {path : List Name} {first last : Name}
    (hfirst : path.head? = some first) (hlast : path.getLast? = some last)
    (hchain : path.IsChain arrow) {v : Name} (hv : v ∈ path) :
    ReflTransGen arrow first v ∧ ReflTransGen arrow v last := by
  obtain ⟨before, after, rfl⟩ := List.append_of_mem hv
  constructor
  · have hbefore : (before ++ [v]).IsChain arrow := hchain.prefix ⟨after, by simp⟩
    refine path_of_isChain ?_ (by simp) hbefore
    rw [List.head?_append] at hfirst ⊢
    simpa using hfirst
  · have hafter : (v :: after).IsChain arrow := hchain.suffix ⟨before, rfl⟩
    refine path_of_isChain rfl ?_ hafter
    rwa [List.getLast?_append_of_ne_nil _ (List.cons_ne_nil v after)] at hlast

/-- A cycle that a back edge closes lies in one component. -/
theorem mutual_of_mem_cycle {cycle : List Name}
    (hcycle : cycle ∈ (run entry (Adjacency.ofEdges edges)).cycles) {v w : Name} (hv : v ∈ cycle)
    (hw : w ∈ cycle) : TransGen (Arrow edges) v v ∧ Mutual edges v w := by
  obtain ⟨tree, finished, hinv⟩ := exists_invariant_run entry edges
  obtain ⟨⟨source, target⟩, hback, hfirst, hlast, hchain⟩ :=
    exists_of_mem_cycles hinv.rooted.closes hcycle
  have harrows : cycle.IsChain (Arrow edges) := hchain.imp fun a b htree =>
    Adjacency.leads_ofEdges.mp (hinv.rooted.leads (a, b) (List.mem_append_left _ htree))
  have harrow : Arrow edges source target := arrow_of_backEdges_run entry edges hback
  -- From every node the cycle goes on to the source of the back edge, and from its target on.
  have haround : ∀ a ∈ cycle, ∀ b ∈ cycle, TransGen (Arrow edges) a b := fun a ha b hb =>
    .trans_right (path_through hfirst hlast harrows ha).2
      (.head' harrow (path_through hfirst hlast harrows hb).1)
  exact ⟨haround v hv v hv, (haround v hv w hw).to_reflTransGen,
    (haround w hw v hv).to_reflTransGen⟩

/-- A path takes a removed arrow or is left when they are removed. -/
theorem removed_on_path {removed : List (Name × Name)} {v w : Name}
    (h : TransGen (Arrow edges) v w) :
    TransGen (ArrowWithout edges removed) v w ∨
      ∃ back ∈ removed, ReflTransGen (Arrow edges) v back.1 ∧
        ReflTransGen (Arrow edges) back.2 w := by
  induction h with
  | @single w harrow =>
    by_cases hmem : (v, w) ∈ removed
    · exact Or.inr ⟨(v, w), hmem, .refl, .refl⟩
    · exact Or.inl (.single ⟨harrow, hmem⟩)
  | @tail u w hpath harrow ih =>
    rcases ih with hleft | ⟨back, hback, hbefore, hafter⟩
    · by_cases hmem : (u, w) ∈ removed
      · exact Or.inr ⟨(u, w), hmem, hpath.to_reflTransGen, .refl⟩
      · exact Or.inl (hleft.tail ⟨harrow, hmem⟩)
    · exact Or.inr ⟨back, hback, hbefore, hafter.tail harrow⟩

/-- Every component that holds a cycle holds one that a back edge closes. -/
theorem exists_cycle_of_transGen {v : Name} (h : TransGen (Arrow edges) v v) :
    ∃ cycle ∈ (run entry (Adjacency.ofEdges edges)).cycles, ∃ w ∈ cycle, Mutual edges v w := by
  obtain ⟨tree, finished, hinv⟩ := exists_invariant_run entry edges
  rcases removed_on_path edges h with hleft | ⟨⟨source, target⟩, hback, hbefore, hafter⟩
  · exact absurd hleft (acyclic_run entry edges v)
  · obtain ⟨cycle, hcycle, hcloses⟩ := exists_closes hinv.rooted.closes hback
    refine ⟨cycle, hcycle, target, List.mem_of_mem_head? (by rw [hcloses.1]; rfl), ?_, hafter⟩
    exact hbefore.tail (arrow_of_backEdges_run entry edges hback)

/-- What is on a cycle is discovered, and so is everything in its component. -/
theorem discovered_of_mutual {v w : Name} (hcycle : TransGen (Arrow edges) v v)
    (hmutual : Mutual edges v w) : w ∈ (run entry (Adjacency.ofEdges edges)).discovered := by
  have hpath := TransGen.trans_left hcycle hmutual.1
  obtain ⟨u, -, harrow⟩ := TransGen.tail'_iff.mp hpath
  exact (discovered_run_of_arrow entry edges harrow).2

end Search

/-! ## Closures -/

namespace CycleAnalysis

variable (entry : Name) (edges : List Edge)

/-- The closures of the groups that the cycles of a flow seed. -/
def closures : List (List Name) :=
  let graph := Adjacency.ofEdges edges
  let search := Search.run entry graph
  (seeds search.cycles).map (close graph graph.reverse search.discovered)

theorem clusters_ofEdges :
    (ofEdges entry edges).clusters =
      sortClusters (Search.run entry (Adjacency.ofEdges edges)).discovered
        ((joined (closures entry edges)).map
          (ordered (Search.run entry (Adjacency.ofEdges edges)).discovered)) :=
  rfl

/-- A seed is a nonempty group of nodes on cycles, all in one component. -/
theorem mutual_of_mem_seed {group : List Name}
    (hgroup : group ∈ seeds (Search.run entry (Adjacency.ofEdges edges)).cycles) {v w : Name}
    (hv : v ∈ group) (hw : w ∈ group) : TransGen (Arrow edges) v v ∧ Mutual edges v w := by
  obtain ⟨cycle, hcycle, hvc⟩ := DisjointSets.exists_list_of_mem_group hgroup hv
  refine ⟨(Search.mutual_of_mem_cycle entry edges hcycle hvc hvc).1, ?_⟩
  refine DisjointSets.related_of_mem_group (equivalence_mutual edges) ?_ hgroup hv hw
  intro cycle hcycle x hx y hy
  exact (Search.mutual_of_mem_cycle entry edges hcycle hx hy).2

/-- A group in one component grows to the nodes of the component that were discovered. -/
theorem mem_close {discovered group : List Name}
    (hgroup : ∀ v ∈ group, ∀ w ∈ group, Mutual edges v w) {a : Name} (ha : a ∈ group) (v : Name) :
    v ∈ close (Adjacency.ofEdges edges) (Adjacency.ofEdges edges).reverse discovered group ↔
      v ∈ discovered ∧ Mutual edges a v := by
  have hbefore : ∀ s, ReflTransGen (Adjacency.ofEdges edges).reverse.Leads s v ↔
      ReflTransGen (Arrow edges) v s := by
    intro s
    rw [← reflTransGen_swap]
    have hleads : (Adjacency.ofEdges edges).reverse.Leads = Function.swap (Arrow edges) := by
      funext x y
      exact propext Adjacency.leads_reverse_ofEdges
    rw [hleads]
  have hafter : ∀ s, ReflTransGen (Adjacency.ofEdges edges).Leads s v ↔
      ReflTransGen (Arrow edges) s v := by
    intro s
    have hleads : (Adjacency.ofEdges edges).Leads = Arrow edges := by
      funext x y
      exact propext Adjacency.leads_ofEdges
    rw [hleads]
  rw [close, List.mem_filter, Bool.and_eq_true, Adjacency.contains_reachable,
    Adjacency.contains_reachable]
  refine and_congr_right fun _ => ?_
  constructor
  · rintro ⟨⟨s, hs, hsv⟩, ⟨t, ht, hvt⟩⟩
    exact ⟨(hgroup a ha s hs).1.trans ((hafter s).mp hsv),
      ((hbefore t).mp hvt).trans (hgroup t ht a ha).1⟩
  · intro hmutual
    exact ⟨⟨a, ha, (hafter a).mpr hmutual.1⟩, ⟨a, ha, (hbefore a).mpr hmutual.2⟩⟩

/-- A closure is the component of a node on a cycle. -/
theorem exists_of_mem_closures {closure : List Name} (h : closure ∈ closures entry edges) :
    ∃ a, TransGen (Arrow edges) a a ∧ ∀ v, v ∈ closure ↔ Mutual edges a v := by
  obtain ⟨group, hgroup, rfl⟩ := List.mem_map.mp h
  obtain ⟨a, ha⟩ := List.exists_mem_of_ne_nil group (DisjointSets.group_ne_nil hgroup)
  have hcycle := (mutual_of_mem_seed entry edges hgroup ha ha).1
  refine ⟨a, hcycle, fun v => ?_⟩
  rw [mem_close edges (fun v hv w hw => (mutual_of_mem_seed entry edges hgroup hv hw).2) ha,
    and_iff_right_iff_imp]
  exact Search.discovered_of_mutual entry edges hcycle

/-- Every node on a cycle is in a closure. -/
theorem exists_closure_of_transGen {v : Name} (h : TransGen (Arrow edges) v v) :
    ∃ closure ∈ closures entry edges, v ∈ closure := by
  obtain ⟨cycle, hcycle, w, hw, hvw⟩ := Search.exists_cycle_of_transGen entry edges h
  obtain ⟨group, hgroup, hwg⟩ := DisjointSets.exists_group_of_mem_list hcycle hw
  refine ⟨_, List.mem_map.mpr ⟨group, hgroup, rfl⟩, ?_⟩
  rw [mem_close edges (fun v hv w hw => (mutual_of_mem_seed entry edges hgroup hv hw).2) hwg]
  exact ⟨Search.discovered_of_mutual entry edges h ⟨.refl, .refl⟩, hvw.symm⟩

/-! ## Clusters -/

/-- Joined closures are the component of each of their nodes. -/
theorem mem_joined {group : List Name} (hgroup : group ∈ joined (closures entry edges)) {v : Name}
    (hv : v ∈ group) : TransGen (Arrow edges) v v ∧ ∀ w, w ∈ group ↔ Mutual edges v w := by
  obtain ⟨closure, hclosure, hvc⟩ := DisjointSets.exists_list_of_mem_group hgroup hv
  obtain ⟨a, hcycle, hmem⟩ := exists_of_mem_closures entry edges hclosure
  have hav := (hmem v).mp hvc
  refine ⟨(TransGen.trans_right hav.2 hcycle).trans_left hav.1, fun w => ?_⟩
  constructor
  · refine DisjointSets.related_of_mem_group (equivalence_mutual edges) ?_ hgroup hv
    intro closure hclosure x hx y hy
    obtain ⟨b, -, hmem⟩ := exists_of_mem_closures entry edges hclosure
    exact ((hmem x).mp hx).symm.trans ((hmem y).mp hy)
  · intro hvw
    exact DisjointSets.list_subset_group hgroup hclosure hvc hv ((hmem w).mpr (hav.trans hvw))

theorem mem_ordered {discovered group : List Name} {v : Name} :
    v ∈ ordered discovered group ↔ v ∈ discovered ∧ v ∈ group := by
  rw [ordered, List.mem_filter, List.contains_iff_mem]

variable {entry edges}

/-- A cluster is the component of each of its members, and a cycle leads through each of them. -/
theorem mem_cluster {cluster : Cluster} (hcluster : cluster ∈ (ofEdges entry edges).clusters)
    {v : Name} (hv : v ∈ cluster) :
    TransGen (Arrow edges) v v ∧ ∀ w, w ∈ cluster ↔ Mutual edges v w := by
  rw [clusters_ofEdges, sortClusters, List.mem_mergeSort] at hcluster
  obtain ⟨group, hgroup, rfl⟩ := List.mem_map.mp hcluster
  obtain ⟨hcycle, hmem⟩ := mem_joined entry edges hgroup (mem_ordered.mp hv).2
  refine ⟨hcycle, fun w => ?_⟩
  rw [mem_ordered, hmem, and_iff_right_iff_imp]
  exact Search.discovered_of_mutual entry edges hcycle

theorem cluster_ne_nil {cluster : Cluster} (hcluster : cluster ∈ (ofEdges entry edges).clusters) :
    cluster ≠ [] := by
  rw [clusters_ofEdges, sortClusters, List.mem_mergeSort] at hcluster
  obtain ⟨group, hgroup, rfl⟩ := List.mem_map.mp hcluster
  obtain ⟨v, hv⟩ := List.exists_mem_of_ne_nil group (DisjointSets.group_ne_nil hgroup)
  have hcycle := (mem_joined entry edges hgroup hv).1
  refine List.ne_nil_of_mem (mem_ordered.mpr ⟨?_, hv⟩)
  exact Search.discovered_of_mutual entry edges hcycle ⟨.refl, .refl⟩

/-- Every node on a cycle is in a cluster. -/
theorem exists_cluster_of_transGen {v : Name} (h : TransGen (Arrow edges) v v) :
    ∃ cluster ∈ (ofEdges entry edges).clusters, v ∈ cluster := by
  obtain ⟨closure, hclosure, hvc⟩ := exists_closure_of_transGen entry edges h
  obtain ⟨group, hgroup, hvg⟩ := DisjointSets.exists_group_of_mem_list hclosure hvc
  refine ⟨_, ?_, mem_ordered.mpr ⟨Search.discovered_of_mutual entry edges h ⟨.refl, .refl⟩, hvg⟩⟩
  rw [clusters_ofEdges, sortClusters, List.mem_mergeSort]
  exact List.mem_map.mpr ⟨group, hgroup, rfl⟩

theorem pairwise_disjoint_clusters (entry : Name) (edges : List Edge) :
    (ofEdges entry edges).clusters.Pairwise List.Disjoint := by
  have hgroups : (joined (closures entry edges)).Pairwise List.Disjoint :=
    (DisjointSets.joined_ofLists _).sound.pairwise_disjoint_groups
  rw [clusters_ofEdges, sortClusters]
  refine ((List.mergeSort_perm _ _).pairwise_iff List.disjoint_symm).mpr ?_
  rw [List.pairwise_map]
  refine hgroups.imp fun {a b} hab => ?_
  intro v ha hb
  exact hab (mem_ordered.mp ha).2 (mem_ordered.mp hb).2

theorem cluster_sublist {cluster : Cluster}
    (hcluster : cluster ∈ (ofEdges entry edges).clusters) :
    cluster.Sublist (Search.run entry (Adjacency.ofEdges edges)).discovered := by
  rw [clusters_ofEdges, sortClusters, List.mem_mergeSort] at hcluster
  obtain ⟨group, -, rfl⟩ := List.mem_map.mp hcluster
  exact List.filter_sublist

/-! ## The order of the clusters -/

/-- Sorted clusters come in the order of their first members, if they have any. -/
theorem pairwise_sortClusters (discovered : List Name) (clusters : List Cluster) :
    (sortClusters discovered clusters).Pairwise fun a b =>
      ∀ v ∈ a.head?, ∀ w ∈ b.head?, discovered.idxOf v ≤ discovered.idxOf w := by
  have hsorted : (sortClusters discovered clusters).Pairwise _ :=
    List.pairwise_mergeSort (fun a b c hab hbc => decide_eq_true
      ((of_decide_eq_true hab).trans (of_decide_eq_true hbc)))
      (fun a b => by simpa using Nat.le_total _ _) clusters
  refine hsorted.imp fun {a b} hab v hv w hw => ?_
  have hle : (a.head?.map discovered.idxOf).getD 0 ≤ (b.head?.map discovered.idxOf).getD 0 :=
    of_decide_eq_true hab
  rw [hv, hw] at hle
  exact hle

/-- Nodes of a list come in the order of their positions. -/
theorem pairwise_idxOf {nodes : List Name} (hnodup : nodes.Nodup) :
    nodes.Pairwise fun v w => nodes.idxOf v < nodes.idxOf w := by
  rw [List.pairwise_iff_getElem]
  intro i j hi hj hij
  rwa [hnodup.idxOf_getElem, hnodup.idxOf_getElem]

theorem discoveryOrder_run (entry : Name) (edges : List Edge) :
    DiscoveryOrder entry edges (Search.run entry (Adjacency.ofEdges edges)).discovered := by
  have hvisits := Search.visits_run entry edges
  have hsources : (Adjacency.ofEdges edges).sources = distinct (edges.map (·.source)) := by
    simp [Adjacency.sources, Adjacency.rows_ofEdges, Function.comp_def]
  rw [Search.roots, hsources, funext (Adjacency.successors_ofEdges edges)] at hvisits
  exact hvisits

/-- The clusters of a flow are the strongly connected components of its graph that hold a cycle. -/
theorem clustering_ofEdges (entry : Name) (edges : List Edge) :
    Clustering entry edges (ofEdges entry edges).clusters where
  component cluster hcluster := by
    obtain ⟨v, hv⟩ := List.exists_mem_of_ne_nil cluster (cluster_ne_nil hcluster)
    obtain ⟨hcycle, hmem⟩ := mem_cluster hcluster hv
    have hset : {w | w ∈ cluster} = {w | Mutual edges v w} := Set.ext hmem
    exact ⟨⟨v, hset⟩, hset ▸ holdsCycle_iff.mpr hcycle⟩
  complete := by
    rintro _ ⟨v, rfl⟩ hholds
    obtain ⟨cluster, hcluster, hv⟩ := exists_cluster_of_transGen (holdsCycle_iff.mp hholds)
    refine ⟨cluster, ⟨hcluster, Set.ext (mem_cluster hcluster hv).2⟩, ?_⟩
    rintro other ⟨hother, hset⟩
    -- Two clusters with a common member are the same, as different ones are disjoint.
    by_contra hne
    have hsymm : Std.Symm (@List.Disjoint Name) := ⟨fun _ _ => List.disjoint_symm⟩
    have hdisjoint := (pairwise_disjoint_clusters entry edges).forall hother hcluster hne
    have hvo : v ∈ {w | w ∈ other} := hset ▸ (⟨.refl, .refl⟩ : Mutual edges v v)
    exact hdisjoint hvo hv
  disjoint := pairwise_disjoint_clusters entry edges
  nodup cluster hcluster :=
    (Search.nodup_discovered_run entry edges).sublist (cluster_sublist hcluster)
  ordered := by
    have hnodup := Search.nodup_discovered_run entry edges
    refine ⟨_, discoveryOrder_run entry edges, fun cluster hcluster => ⟨?_, ?_⟩, ?_⟩
    · exact (cluster_sublist hcluster).subset
    · exact (pairwise_idxOf hnodup).sublist (cluster_sublist hcluster)
    · have hsorted := pairwise_sortClusters
        (Search.run entry (Adjacency.ofEdges edges)).discovered
        ((joined (closures entry edges)).map
          (ordered (Search.run entry (Adjacency.ofEdges edges)).discovered))
      rw [← clusters_ofEdges] at hsorted
      refine (hsorted.and (pairwise_disjoint_clusters entry edges)).imp_of_mem ?_
      rintro a b ha hb ⟨hle, hdisjoint⟩ v hv w hw
      have hva := List.mem_of_mem_head? hv
      have hwb := List.mem_of_mem_head? hw
      refine lt_of_le_of_ne (hle v hv w hw) fun heq => hdisjoint hva ?_
      rwa [(List.idxOf_inj ((cluster_sublist ha).subset hva)).mp heq]

end CycleAnalysis

end FlowDiagram
