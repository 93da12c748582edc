import FlowDiagram.Graph.Iteration
import FlowDiagram.Proofs.Graph.Arrows
import Mathlib.Data.List.Nodup

/-!
# Iteration groups are chains of their own

The activities that are taken while groups are looked for are the members of the cycle clusters and
those of the groups found so far, one after the other. A chain goes on to an activity only if it is
not taken and not in the chain, so no activity is ever taken twice.

## Main definitions

* `IterationGroup.Chains`: the groups found so far and the activities they take.
-/

namespace FlowDiagram.IterationGroup

variable {edges : List Edge} {taken chain : List Name} {current : Name}

/-! ## Chains -/

theorem prefix_extend (graph : Adjacency) (taken chain : List Name) (current : Name) :
    chain <+: extend graph taken chain current := by
  fun_induction extend graph taken chain current with
  | case1 chain current next hnext hstop => exact List.prefix_refl chain
  | case2 chain current next hnext hgo ih => exact (List.prefix_append chain [next]).trans ih
  | case3 chain current hnext => exact List.prefix_refl chain

theorem nodup_extend {graph : Adjacency} (hnodup : chain.Nodup) :
    (extend graph taken chain current).Nodup := by
  fun_induction extend graph taken chain current with
  | case1 chain current next hnext hstop => exact hnodup
  | case2 chain current next hnext hgo ih =>
    refine ih (List.nodup_append.mpr ⟨hnodup, List.nodup_singleton next, ?_⟩)
    intro a ha b hb hab
    rw [List.mem_singleton.mp hb] at hab
    exact hgo (Or.inr (Or.inr (hab ▸ ha)))
  | case3 chain current hnext => exact hnodup

/-- What a chain goes on to is free, is not the end, and an arrow leads there. -/
theorem mem_extend {graph : Adjacency} {v : Name} (hv : v ∈ extend graph taken chain current) :
    v ∈ chain ∨ (v ∉ taken ∧ v ≠ endNode ∧ ∃ u, graph.Leads u v) := by
  fun_induction extend graph taken chain current with
  | case1 chain current next hnext hstop => exact Or.inl hv
  | case2 chain current next hnext hgo ih =>
    rcases ih hv with hmem | hfree
    · rcases List.mem_append.mp hmem with hmem | hmem
      · exact Or.inl hmem
      · rw [List.mem_singleton.mp hmem]
        refine Or.inr ⟨fun h => hgo (Or.inr (Or.inl h)), fun h => hgo (Or.inl h), current, ?_⟩
        rw [Adjacency.Leads, hnext]
        exact List.mem_cons_self
    · exact Or.inr hfree
  | case3 chain current hnext => exact Or.inl hv

/-! ## Groups -/

/-- The groups found so far: chains of at least two activities that arrows lead to. What is taken
are their members beside some other activities, none of them twice. -/
structure Chains (edges : List Edge) (others : List Name)
    (state : List Name × List IterationGroup) : Prop where
  taken_eq : state.1 = others ++ state.2.flatMap (·.members)
  nodup : state.1.Nodup
  long : ∀ group ∈ state.2, 1 < group.members.length
  target : ∀ group ∈ state.2, ∀ v ∈ group.members, ∃ u, Arrow edges u v

theorem Chains.start (edges : List Edge) {others : List Name} (h : others.Nodup) :
    Chains edges others (others, []) where
  taken_eq := by simp
  nodup := h
  long := fun group hgroup => absurd hgroup List.not_mem_nil
  target := fun group hgroup => absurd hgroup List.not_mem_nil

/-- An edge adds a group of activities that were not taken, or none. -/
theorem Chains.addFrom {others : List Name} {state : List Name × List IterationGroup}
    (h : Chains edges others state) {edge : Edge} (hedge : edge ∈ edges) :
    Chains edges others (addFrom (Adjacency.ofEdges edges) state edge) := by
  obtain ⟨taken, groups⟩ := state
  unfold IterationGroup.addFrom
  dsimp only
  split
  · exact h
  · rename_i hstart
    split
    · rename_i hlong
      have hfree : edge.target ∉ taken := by
        intro hmem
        exact hstart (by simp [hmem])
      have hmem : ∀ v ∈ extend (Adjacency.ofEdges edges) taken [edge.target] edge.target,
          v ∉ taken ∧ ∃ u, Arrow edges u v := by
        intro v hv
        rcases mem_extend hv with hv | ⟨hv, -, u, hu⟩
        · rw [List.mem_singleton.mp hv]
          exact ⟨hfree, edge.source, arrow_iff.mpr ⟨edge, hedge, rfl, rfl⟩⟩
        · exact ⟨hv, u, Adjacency.leads_ofEdges.mp hu⟩
      refine ⟨?_, ?_, ?_, ?_⟩
      · have htaken : taken = others ++ groups.flatMap (·.members) := h.taken_eq
        simp [htaken]
      · refine List.nodup_append.mpr ⟨h.nodup, nodup_extend (List.nodup_singleton _), ?_⟩
        rintro a ha b hb rfl
        exact (hmem a hb).1 ha
      · intro group hgroup
        rcases List.mem_append.mp hgroup with hgroup | hgroup
        · exact h.long group hgroup
        · rw [List.mem_singleton.mp hgroup]
          exact hlong
      · intro group hgroup v hv
        rcases List.mem_append.mp hgroup with hgroup | hgroup
        · exact h.target group hgroup v hv
        · rw [List.mem_singleton.mp hgroup] at hv
          exact (hmem v hv).2
    · exact h

/-- The groups of a flow beside clusters that share no member. -/
theorem exists_chains_ofEdges (edges : List Edge) {clusters : List Cluster}
    (hclusters : clusters.flatten.Nodup) :
    ∃ taken, Chains edges clusters.flatten (taken, ofEdges edges clusters) := by
  exact ⟨_, List.foldlRecOn edges _ (Chains.start edges hclusters) fun _ h _ hedge =>
    h.addFrom hedge⟩

/-- The groups of edges depend on their ends, and on which of them start several activities. -/
theorem ofEdges_map {f : Edge → Edge} (hends : ∀ edge, (f edge).ends = edge.ends)
    (hfanOut : ∀ edge, (f edge).isFanOut = edge.isFanOut) (edges : List Edge)
    (clusters : List Cluster) : ofEdges (edges.map f) clusters = ofEdges edges clusters := by
  have hgraph : Adjacency.ofEdges (edges.map f) = Adjacency.ofEdges edges := by
    refine Adjacency.ofEdges_congr ?_
    rw [List.map_map]
    exact List.map_congr_left fun edge _ => hends edge
  have hadd : ∀ state edge, addFrom (Adjacency.ofEdges edges) state (f edge) =
      addFrom (Adjacency.ofEdges edges) state edge := by
    intro state edge
    have hsource : (f edge).source = edge.source := congrArg Prod.fst (hends edge)
    have htarget : (f edge).target = edge.target := congrArg Prod.snd (hends edge)
    rw [addFrom, addFrom, hfanOut, hsource, htarget]
  rw [ofEdges, ofEdges, hgraph, List.foldl_map]
  simp only [hadd]

end FlowDiagram.IterationGroup
