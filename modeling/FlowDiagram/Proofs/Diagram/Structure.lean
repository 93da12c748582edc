import FlowDiagram.Diagram.Structure
import Mathlib.Data.List.Nodup

/-!
# Which diagrams fit together

The check of a diagram claims the members of its groups one after the other and looks at the ends of
its edges. It passes exactly if no group is empty, all members are nodes and no two are the same,
and all edges join nodes.

## Main definitions

* `Fits`: what a diagram has to satisfy.

`checkStructure_eq_ok_iff` says that the check passes for no other diagrams.
-/

namespace FlowDiagram

/-- The members of every group of a diagram. -/
def memberLists (clusters : List Cluster) (groups : List IterationGroup) : List (List Name) :=
  clusters ++ groups.map (·.members)

/-- Groups and edges that fit the nodes of a diagram. -/
structure Fits (nodes : List Name) (clusters : List Cluster) (groups : List IterationGroup)
    (edges : List Edge) : Prop where
  nonempty : ∀ members ∈ memberLists clusters groups, members ≠ []
  known : ∀ members ∈ memberLists clusters groups, members ⊆ nodes
  nodup : (memberLists clusters groups).flatten.Nodup
  ends : ∀ edge ∈ edges, edge.source ∈ nodes ∧ edge.target ∈ nodes

/-! ## Members -/

theorem lookup_eq_none_iff {claims : Claims} {member : Name} :
    claims.lookup member = none ↔ member ∉ claims.map Prod.fst := by
  rw [List.lookup_eq_none_iff]
  simp only [bne_iff_ne, List.mem_map, not_exists, not_and]
  exact forall₂_congr fun claim _ => ne_comm

/-- The members of a group can be claimed if they are nodes that nobody has claimed. -/
theorem claimMembers_eq_ok_iff {nodes members : List Name} {group : GroupName}
    {claims claims' : Claims} (hclaims : (claims.map Prod.fst).Nodup) :
    claimMembers nodes group claims members = .ok claims' ↔
      members ⊆ nodes ∧ (claims.map Prod.fst ++ members).Nodup ∧
        claims' = claims ++ members.map fun member => (member, group) := by
  induction members generalizing claims with
  | nil =>
    simp [claimMembers, hclaims, eq_comm]
  | cons member members ih =>
    rw [claimMembers]
    by_cases hnode : member ∈ nodes
    · rw [if_pos (List.contains_iff_mem.mpr hnode)]
      cases hlookup : claims.lookup member with
      | some first =>
        have hclaimed : member ∈ claims.map Prod.fst := by
          by_contra h
          rw [lookup_eq_none_iff.mpr h] at hlookup
          exact absurd hlookup (Option.some_ne_none first).symm
        simp only [reduceCtorEq, false_iff]
        rintro ⟨-, hnodup, -⟩
        exact List.disjoint_of_nodup_append hnodup hclaimed List.mem_cons_self
      | none =>
        have hfree := lookup_eq_none_iff.mp hlookup
        have hclaims' : ((claims ++ [(member, group)]).map Prod.fst).Nodup := by
          rw [List.map_append, List.nodup_append]
          refine ⟨hclaims, List.nodup_singleton _, ?_⟩
          rintro a ha b hb rfl
          obtain rfl : a = member := List.mem_singleton.mp hb
          exact hfree ha
        simp only [ih hclaims', List.cons_subset, hnode, true_and, List.map_append,
          List.map_cons, List.map_nil, List.append_assoc, List.cons_append, List.nil_append]
    · rw [if_neg (fun h => hnode (List.contains_iff_mem.mp h))]
      simp [hnode]

/-- The members of groups can be claimed if none is empty and their members are different nodes. -/
theorem claimGroups_isOk_iff {nodes : List Name} {groups : List (GroupName × List Name)}
    {claims : Claims} (hclaims : (claims.map Prod.fst).Nodup) :
    (∃ claims', claimGroups nodes claims groups = .ok claims') ↔
      (∀ group ∈ groups, group.2 ≠ [] ∧ group.2 ⊆ nodes) ∧
        (claims.map Prod.fst ++ groups.flatMap Prod.snd).Nodup := by
  induction groups generalizing claims with
  | nil => simp [claimGroups, hclaims]
  | cons group groups ih =>
    obtain ⟨name, members⟩ := group
    rw [claimGroups]
    by_cases hempty : members = []
    · simp [hempty]
    · rw [if_neg (by simpa using hempty), List.forall_mem_cons, List.flatMap_cons,
        ← List.append_assoc]
      cases hclaim : claimMembers nodes name claims members with
      | error e =>
        simp only [reduceCtorEq, exists_false, false_iff]
        rintro ⟨⟨⟨-, hknown⟩, -⟩, hnodup⟩
        have hok : claimMembers nodes name claims members = .ok _ :=
          (claimMembers_eq_ok_iff hclaims).mpr ⟨hknown, hnodup.of_append_left, rfl⟩
        rw [hclaim] at hok
        exact nomatch hok
      | ok claims' =>
        obtain ⟨hknown, hnodup, rfl⟩ := (claimMembers_eq_ok_iff hclaims).mp hclaim
        have hmap : (claims ++ members.map fun member => (member, name)).map Prod.fst =
            claims.map Prod.fst ++ members := by
          simp [Function.comp_def]
        simp only [ih (hmap ▸ hnodup), hmap, ne_eq, hempty, not_false_eq_true, hknown, and_self,
          true_and]

/-! ## Edges -/

theorem unknownEnd?_eq_none_iff {nodes : List Name} {edge : Edge} :
    unknownEnd? nodes edge = none ↔ edge.source ∈ nodes ∧ edge.target ∈ nodes := by
  simp [unknownEnd?]

theorem checkEnds_eq_ok_iff {nodes : List Name} {edges : List Edge} :
    checkEnds nodes edges = .ok () ↔
      ∀ edge ∈ edges, edge.source ∈ nodes ∧ edge.target ∈ nodes := by
  induction edges with
  | nil => simp [checkEnds]
  | cons edge edges ih =>
    rw [checkEnds, List.forall_mem_cons, ← unknownEnd?_eq_none_iff]
    cases unknownEnd? nodes edge with
    | some unknown => simp
    | none => simp [ih]

/-- The check of edges looks at their ends only. -/
theorem checkEnds_map {f : Edge → Edge} (hf : ∀ edge, (f edge).ends = edge.ends)
    (nodes : List Name) (edges : List Edge) :
    checkEnds nodes (edges.map f) = checkEnds nodes edges := by
  induction edges with
  | nil => rfl
  | cons edge edges ih =>
    have hsource : (f edge).source = edge.source := congrArg Prod.fst (hf edge)
    have htarget : (f edge).target = edge.target := congrArg Prod.snd (hf edge)
    rw [List.map_cons, checkEnds, checkEnds, unknownEnd?, unknownEnd?, hsource, htarget, ih]

/-! ## The whole diagram -/

theorem checkStructure_map {f : Edge → Edge} (hf : ∀ edge, (f edge).ends = edge.ends)
    (nodes : List Name) (clusters : List Cluster) (groups : List IterationGroup)
    (edges : List Edge) :
    checkStructure nodes clusters groups (edges.map f) =
      checkStructure nodes clusters groups edges := by
  rw [checkStructure, checkStructure, checkEnds_map hf]

theorem map_zipIdx_fst {α β : Type} (f : α → β) (items : List α) :
    items.zipIdx.map (fun item => f item.1) = items.map f := by
  rw [← Function.comp_def f Prod.fst, ← List.map_map, List.zipIdx_map_fst]

theorem map_snd_namedGroups (clusters : List Cluster) (groups : List IterationGroup) :
    (namedGroups clusters groups).map Prod.snd = memberLists clusters groups := by
  rw [namedGroups, List.map_append, List.map_map, List.map_map, memberLists]
  exact congrArg₂ _ ((map_zipIdx_fst id clusters).trans (List.map_id clusters))
    (map_zipIdx_fst IterationGroup.members groups)

/-- The check passes exactly for diagrams that fit together. -/
theorem checkStructure_eq_ok_iff {nodes : List Name} {clusters : List Cluster}
    {groups : List IterationGroup} {edges : List Edge} :
    checkStructure nodes clusters groups edges = .ok () ↔ Fits nodes clusters groups edges := by
  have hgroups :
      (∃ claims', claimGroups nodes [] (namedGroups clusters groups) = .ok claims') ↔ _ :=
    claimGroups_isOk_iff List.nodup_nil
  have hmembers : (∀ group ∈ namedGroups clusters groups, group.2 ≠ [] ∧ group.2 ⊆ nodes) ↔
      ∀ members ∈ memberLists clusters groups, members ≠ [] ∧ members ⊆ nodes := by
    rw [← map_snd_namedGroups, List.forall_mem_map]
  rw [List.map_nil, List.nil_append, hmembers, List.flatMap_def, map_snd_namedGroups] at hgroups
  have hcheck : checkStructure nodes clusters groups edges = .ok () ↔
      (∃ claims', claimGroups nodes [] (namedGroups clusters groups) = .ok claims') ∧
        checkEnds nodes edges = .ok () := by
    unfold checkStructure
    cases claimGroups nodes [] (namedGroups clusters groups) with
    | error e => simp [bind, Except.bind]
    | ok claims => simp [bind, Except.bind]
  rw [hcheck, hgroups, checkEnds_eq_ok_iff]
  constructor
  · rintro ⟨⟨hall, hnodup⟩, hends⟩
    exact ⟨fun m hm => (hall m hm).1, fun m hm => (hall m hm).2, hnodup, hends⟩
  · intro h
    exact ⟨⟨fun m hm => ⟨h.nonempty m hm, h.known m hm⟩, h.nodup⟩, h.ends⟩

end FlowDiagram
