import FlowDiagram.Graph.DepthFirst
import FlowDiagram.Proofs.Graph.Arrows
import FlowDiagram.Proofs.Graph.Visits
import Mathlib.Data.List.Chain
import Mathlib.Data.List.Forall2
import Mathlib.Data.List.Perm.Basic
import Mathlib.Data.List.TakeWhile

/-!
# What a depth-first search keeps

A search with its path in hand keeps three things. The nodes of the pool are undiscovered, on the
path or finished. Every arrow that was looked at is a back edge, or leads to a node that is finished
or further along the path. And every back edge closes a cycle of tree arrows, by which the path was
discovered.

The finished nodes and the tree arrows are not part of the search. They are listed beside it here:
the finished nodes with the last one first, so that an arrow out of one of them leads on in the
list.

## Main definitions

* `Search.Accounted`: where the nodes of the pool are.
* `Search.Settled`, `Search.Examined`: where the arrows lead that were looked at.
* `Search.Rooted`: the tree arrows, and the cycles that back edges close.
* `Search.Invariant`: all of them.

`Search.exists_invariant_run` and `Search.visits_run` say what holds of the search of a whole graph.
-/

namespace FlowDiagram.Search

open Adjacency (Leads)

variable {graph : Adjacency} {pool : List Name} {search : Search} {frames : List Frame}
  {node next : Name} {pending : List Name} {finished : List Name} {tree : List (Name × Name)}

/-! ## Nodes -/

/-- Every node of a pool is undiscovered or discovered, and every discovered one is on the path or
finished. -/
structure Accounted (pool : List Name) (search : Search) (frames : List Frame)
    (finished : List Name) : Prop where
  mem_pool : ∀ v, v ∈ pool ↔ v ∈ search.undiscovered ∨ v ∈ search.discovered
  nodup_undiscovered : search.undiscovered.Nodup
  not_discovered : ∀ v ∈ search.undiscovered, v ∉ search.discovered
  perm : search.discovered.Perm (frames.map Frame.node ++ finished)
  nodup : search.discovered.Nodup

namespace Accounted

theorem mem_discovered (h : Accounted pool search frames finished) {v : Name} :
    v ∈ search.discovered ↔ v ∈ frames.map Frame.node ∨ v ∈ finished := by
  rw [h.perm.mem_iff, List.mem_append]

/-- What is in the pool and not undiscovered is discovered. -/
theorem discovered_of_not_mem (h : Accounted pool search frames finished) (hpool : next ∈ pool)
    (hnext : next ∉ search.undiscovered) : next ∈ search.discovered :=
  ((h.mem_pool next).mp hpool).resolve_left hnext

theorem finish (h : Accounted pool search (⟨node, []⟩ :: frames) finished) :
    Accounted pool search frames (node :: finished) :=
  { h with perm := h.perm.trans List.perm_middle.symm }

theorem advance (h : Accounted pool search (⟨node, next :: pending⟩ :: frames) finished) :
    Accounted pool search (⟨node, pending⟩ :: frames) finished :=
  { h with perm := h.perm }

theorem closeCycle (h : Accounted pool search frames finished) (path : List Name)
    (source target : Name) :
    Accounted pool (search.closeCycle path source target) frames finished :=
  { h with }

theorem discover (h : Accounted pool search frames finished) (hnext : next ∈ search.undiscovered)
    (pending : List Name) :
    Accounted pool (search.discover next) (⟨next, pending⟩ :: frames) finished where
  mem_pool v := by
    simp only [Search.discover, h.mem_pool, h.nodup_undiscovered.mem_erase_iff, List.mem_append,
      List.mem_singleton]
    constructor
    · rintro (hv | hv)
      · by_cases heq : v = next
        · exact Or.inr (Or.inr heq)
        · exact Or.inl ⟨heq, hv⟩
      · exact Or.inr (Or.inl hv)
    · rintro (⟨-, hv⟩ | hv | rfl)
      · exact Or.inl hv
      · exact Or.inr hv
      · exact Or.inl hnext
  nodup_undiscovered := h.nodup_undiscovered.erase next
  not_discovered v hv := by
    simp only [Search.discover, h.nodup_undiscovered.mem_erase_iff] at hv ⊢
    simp [h.not_discovered v hv.2, hv.1]
  perm := by
    simp only [Search.discover, List.map_cons, List.cons_append]
    exact List.perm_append_singleton next search.discovered |>.trans (h.perm.cons next)
  nodup := by
    simp only [Search.discover]
    rw [List.nodup_append]
    refine ⟨h.nodup, List.nodup_singleton next, fun a ha b hb hab => ?_⟩
    rw [List.mem_singleton.mp hb] at hab
    exact h.not_discovered next hnext (hab ▸ ha)

end Accounted

/-! ## Arrows that were looked at -/

/-- Every arrow out of a finished node is a back edge or leads to a node that finished before. -/
def Settled (graph : Adjacency) (backEdges : List (Name × Name)) : List Name → Prop
  | [] => True
  | node :: older =>
    (∀ next, graph.Leads node next → (node, next) ∈ backEdges ∨ next ∈ older) ∧
      Settled graph backEdges older

/-- Every arrow that a frame has looked at is a back edge or leads to a node beyond the frame, which
is finished or further along the path. -/
def Examined (graph : Adjacency) (backEdges : List (Name × Name)) :
    List Name → List Frame → Prop
  | _, [] => True
  | beyond, frame :: frames =>
    (∃ seen, graph.successors frame.node = seen ++ frame.pending ∧
      ∀ next ∈ seen, (frame.node, next) ∈ backEdges ∨ next ∈ beyond) ∧
      Examined graph backEdges (frame.node :: beyond) frames

theorem Settled.mono {backEdges backEdges' : List (Name × Name)}
    (h : Settled graph backEdges finished) (hback : backEdges ⊆ backEdges') :
    Settled graph backEdges' finished := by
  induction finished with
  | nil => trivial
  | cons node older ih =>
    exact ⟨fun next hnext => (h.1 next hnext).imp_left fun hb => hback hb, ih h.2⟩

theorem Examined.mono {backEdges backEdges' : List (Name × Name)} {beyond beyond' : List Name}
    (h : Examined graph backEdges beyond frames) (hback : backEdges ⊆ backEdges')
    (hbeyond : beyond ⊆ beyond') : Examined graph backEdges' beyond' frames := by
  induction frames generalizing beyond beyond' with
  | nil => trivial
  | cons frame frames ih =>
    obtain ⟨⟨seen, hseen, hall⟩, hrest⟩ := h
    refine ⟨⟨seen, hseen, fun next hnext => ?_⟩, ih hrest (List.cons_subset_cons _ hbeyond)⟩
    exact (hall next hnext).imp (fun hb => hback hb) (fun hb => hbeyond hb)

/-- A frame moves on past an arrow once the arrow is a back edge or its target lies beyond. -/
theorem Examined.advance {backEdges backEdges' : List (Name × Name)} {beyond beyond' : List Name}
    (h : Examined graph backEdges beyond (⟨node, next :: pending⟩ :: frames))
    (hback : backEdges ⊆ backEdges') (hbeyond : beyond ⊆ beyond')
    (hnext : (node, next) ∈ backEdges' ∨ next ∈ beyond') :
    Examined graph backEdges' beyond' (⟨node, pending⟩ :: frames) := by
  obtain ⟨⟨seen, hseen, hall⟩, hrest⟩ := h
  refine ⟨⟨seen ++ [next], by simpa using hseen, fun w hw => ?_⟩,
    hrest.mono hback (List.cons_subset_cons _ hbeyond)⟩
  rcases List.mem_append.mp hw with hw | hw
  · exact (hall w hw).imp (fun hb => hback hb) (fun hb => hbeyond hb)
  · rwa [List.mem_singleton.mp hw]

theorem Examined.pending_subset {backEdges : List (Name × Name)} {beyond : List Name}
    (h : Examined graph backEdges beyond (⟨node, pending⟩ :: frames)) :
    pending.Sublist (graph.successors node) := by
  obtain ⟨⟨seen, hseen, -⟩, -⟩ := h
  exact hseen ▸ List.sublist_append_right seen pending

/-! ## Tree arrows -/

/-- A back edge closes a cycle: tree arrows lead from its target to its source. -/
def Closes (tree : List (Name × Name)) (back : Name × Name) (cycle : List Name) : Prop :=
  cycle.head? = some back.2 ∧ cycle.getLast? = some back.1 ∧
    cycle.IsChain fun a b => (a, b) ∈ tree

theorem Closes.mono {tree' : List (Name × Name)} {back : Name × Name} {cycle : List Name}
    (h : Closes tree back cycle) (htree : tree ⊆ tree') : Closes tree' back cycle :=
  ⟨h.1, h.2.1, h.2.2.imp fun _ _ ha => htree ha⟩

/-- Tree arrows and back edges are arrows out of discovered nodes that were looked at once; the path
consists of tree arrows, and every back edge closes its cycle. -/
structure Rooted (graph : Adjacency) (search : Search) (frames : List Frame)
    (tree : List (Name × Name)) : Prop where
  leads : ∀ arrow ∈ tree ++ search.backEdges, graph.Leads arrow.1 arrow.2
  source_mem : ∀ arrow ∈ tree ++ search.backEdges, arrow.1 ∈ search.discovered
  nodup : (tree ++ search.backEdges).Nodup
  unused : ∀ frame ∈ frames, ∀ w ∈ frame.pending, (frame.node, w) ∉ tree ++ search.backEdges
  chain : frames.IsChain fun child parent => (parent.node, child.node) ∈ tree
  closes : List.Forall₂ (Closes tree) search.backEdges search.cycles

namespace Rooted

theorem finish (h : Rooted graph search (⟨node, pending⟩ :: frames) tree) :
    Rooted graph search frames tree :=
  { h with
    unused := fun frame hf => h.unused frame (List.mem_cons_of_mem _ hf)
    chain := h.chain.tail }

theorem advance (h : Rooted graph search (⟨node, next :: pending⟩ :: frames) tree) :
    Rooted graph search (⟨node, pending⟩ :: frames) tree :=
  { h with
    unused := by
      intro frame hf w hw
      rcases List.mem_cons.mp hf with rfl | hf
      · exact h.unused _ List.mem_cons_self w (List.mem_cons_of_mem next hw)
      · exact h.unused frame (List.mem_cons_of_mem _ hf) w hw
    chain := by
      have hchain := h.chain
      cases frames with
      | nil => exact .singleton _
      | cons parent frames =>
        rw [List.isChain_cons_cons] at hchain ⊢
        exact hchain }

/-- An arrow that was just looked at is none of those that are still pending. -/
theorem pending_ne (hpath : ((⟨node, next :: pending⟩ :: frames).map Frame.node).Nodup)
    (hpending : (next :: pending).Nodup) :
    ∀ frame ∈ ⟨node, pending⟩ :: frames, ∀ w ∈ frame.pending, (frame.node, w) ≠ (node, next) := by
  intro frame hf w hw heq
  obtain ⟨hnode, rfl⟩ := Prod.mk.inj heq
  rcases List.mem_cons.mp hf with rfl | hf
  · exact (List.nodup_cons.mp hpending).1 hw
  · exact (List.nodup_cons.mp hpath).1 (List.mem_map.mpr ⟨frame, hf, hnode⟩)

/-- Discovering a node without a path to it. -/
theorem discover (h : Rooted graph search [] tree) (hnext : next ∉ search.discovered) :
    Rooted graph (search.discover next) [⟨next, graph.successors next⟩] tree where
  leads := h.leads
  source_mem arrow ha := List.mem_append_left _ (h.source_mem arrow ha)
  nodup := h.nodup
  unused frame hf w _ ha := by
    rw [List.mem_singleton.mp hf] at ha
    exact hnext (h.source_mem _ ha)
  chain := .singleton _
  closes := h.closes

/-- Discovering a node through an arrow of the path makes it a tree arrow. -/
theorem descend (h : Rooted graph search (⟨node, next :: pending⟩ :: frames) tree)
    (hpath : ((⟨node, next :: pending⟩ :: frames).map Frame.node).Nodup)
    (hpending : (next :: pending).Nodup) (hlead : graph.Leads node next)
    (hnode : node ∈ search.discovered) (hnext : next ∉ search.discovered) :
    Rooted graph (search.discover next)
      (⟨next, graph.successors next⟩ :: ⟨node, pending⟩ :: frames) ((node, next) :: tree) where
  leads arrow ha := by
    rcases List.mem_cons.mp ha with rfl | ha
    · exact hlead
    · exact h.leads arrow ha
  source_mem arrow ha := by
    refine List.mem_append_left _ ?_
    rcases List.mem_cons.mp ha with rfl | ha
    · exact hnode
    · exact h.source_mem arrow ha
  nodup := List.nodup_cons.mpr ⟨h.unused _ List.mem_cons_self next List.mem_cons_self, h.nodup⟩
  unused frame hf w hw ha := by
    rcases List.mem_cons.mp hf with rfl | hf
    · -- The new node was not discovered, so no arrow out of it has been looked at.
      rcases List.mem_cons.mp ha with heq | ha
      · obtain rfl : next = node := (Prod.mk.inj heq).1
        exact hnext hnode
      · exact hnext (h.source_mem _ ha)
    · rcases List.mem_cons.mp ha with heq | ha
      · exact pending_ne hpath hpending frame hf w hw heq
      · exact h.advance.unused frame hf w hw ha
  chain := by
    refine .cons_cons List.mem_cons_self (h.advance.chain.imp fun _ _ ha => ?_)
    exact List.mem_cons_of_mem _ ha
  closes := h.closes.imp fun _ _ hc => hc.mono (List.subset_cons_self _ _)

/-- The part of a path from one of its nodes on closes a cycle with the arrow back to that node. -/
theorem closes_dropWhile {path : List Name} (hlast : path.getLast? = some node)
    (hchain : path.IsChain fun a b => (a, b) ∈ tree) (hnext : next ∈ path) :
    Closes tree (node, next) (path.dropWhile (· ≠ next)) := by
  have hne : path.dropWhile (· ≠ next) ≠ [] := by
    rw [Ne, List.dropWhile_eq_nil_iff]
    exact fun h => of_decide_eq_true (h next hnext) rfl
  have hsuffix := List.dropWhile_suffix (l := path) (· ≠ next)
  refine ⟨?_, ?_, hchain.suffix hsuffix⟩
  · have hhead := List.head_dropWhile_not (fun a => decide (a ≠ next)) hne
    rw [List.head?_eq_some_head hne]
    exact congrArg some (by simpa using hhead)
  · obtain ⟨before, hbefore⟩ := hsuffix
    rw [← hbefore, List.getLast?_append_of_ne_nil _ hne] at hlast
    exact hlast

/-- An arrow back to a node of the path closes a cycle. -/
theorem closeCycle (h : Rooted graph search (⟨node, next :: pending⟩ :: frames) tree)
    (hpath : ((⟨node, next :: pending⟩ :: frames).map Frame.node).Nodup)
    (hpending : (next :: pending).Nodup) (hlead : graph.Leads node next)
    (hnode : node ∈ search.discovered) (hnext : next ∈ pathOf (⟨node, pending⟩ :: frames)) :
    Rooted graph (search.closeCycle (pathOf (⟨node, pending⟩ :: frames)) node next)
      (⟨node, pending⟩ :: frames) tree where
  leads arrow ha := by
    simp only [Search.closeCycle, ← List.append_assoc] at ha
    rcases List.mem_append.mp ha with ha | ha
    · exact h.leads arrow ha
    · rw [List.mem_singleton.mp ha]
      exact hlead
  source_mem arrow ha := by
    simp only [Search.closeCycle, ← List.append_assoc] at ha
    rcases List.mem_append.mp ha with ha | ha
    · exact h.source_mem arrow ha
    · rw [List.mem_singleton.mp ha]
      exact hnode
  nodup := by
    simp only [Search.closeCycle, ← List.append_assoc]
    rw [List.nodup_append]
    refine ⟨h.nodup, List.nodup_singleton _, fun a ha b hb hab => ?_⟩
    rw [List.mem_singleton.mp hb] at hab
    exact h.unused _ List.mem_cons_self next List.mem_cons_self (hab ▸ ha)
  unused frame hf w hw ha := by
    simp only [Search.closeCycle, ← List.append_assoc] at ha
    rcases List.mem_append.mp ha with ha | ha
    · exact h.advance.unused frame hf w hw ha
    · exact pending_ne hpath hpending frame hf w hw (List.mem_singleton.mp ha)
  chain := h.advance.chain
  closes := by
    have hchain : (pathOf (⟨node, pending⟩ :: frames)).IsChain fun a b => (a, b) ∈ tree := by
      rw [pathOf, List.isChain_reverse, List.isChain_map]
      exact h.advance.chain
    have hlast : (pathOf (⟨node, pending⟩ :: frames)).getLast? = some node := by
      simp [pathOf]
    exact List.rel_append h.closes (.cons (closes_dropWhile hlast hchain hnext) .nil)

end Rooted

/-! ## The invariant -/

/-- What a search of a graph keeps, along a path whose last node comes first. -/
structure Invariant (graph : Adjacency) (pool : List Name) (search : Search) (frames : List Frame)
    (tree : List (Name × Name)) (finished : List Name) : Prop where
  accounted : Accounted pool search frames finished
  settled : Settled graph search.backEdges finished
  examined : Examined graph search.backEdges finished frames
  rooted : Rooted graph search frames tree

namespace Invariant

theorem nodup_path (h : Invariant graph pool search frames tree finished) :
    (frames.map Frame.node).Nodup :=
  (h.accounted.perm.nodup_iff.mp h.accounted.nodup).of_append_left

/-- The last node of the path is finished once all its successors were looked at. -/
theorem finish (h : Invariant graph pool search (⟨node, []⟩ :: frames) tree finished) :
    Invariant graph pool search frames tree (node :: finished) where
  accounted := h.accounted.finish
  settled := by
    refine ⟨fun next hnext => ?_, h.settled⟩
    obtain ⟨⟨seen, hseen, hall⟩, -⟩ := h.examined
    rw [List.append_nil] at hseen
    exact hall next (hseen ▸ hnext)
  examined := h.examined.2
  rooted := h.rooted.finish

section Look

variable (h : Invariant graph pool search (⟨node, next :: pending⟩ :: frames) tree finished)
include h

theorem node_discovered : node ∈ search.discovered :=
  h.accounted.mem_discovered.mpr (Or.inl (by simp))

theorem leads_next : graph.Leads node next :=
  h.examined.pending_subset.subset List.mem_cons_self

theorem nodup_pending (hnodup : ∀ v, (graph.successors v).Nodup) : (next :: pending).Nodup :=
  (hnodup node).sublist h.examined.pending_subset

/-- The search goes down to a node that was not discovered. -/
theorem descend (hnodup : ∀ v, (graph.successors v).Nodup) (hnext : next ∈ search.undiscovered) :
    Invariant graph pool (search.discover next)
      (⟨next, graph.successors next⟩ :: ⟨node, pending⟩ :: frames) ((node, next) :: tree)
      finished where
  accounted := h.accounted.advance.discover hnext _
  settled := h.settled
  examined := by
    refine ⟨⟨[], rfl, fun w hw => absurd hw List.not_mem_nil⟩, ?_⟩
    exact h.examined.advance (List.Subset.refl _) (List.subset_cons_self next finished)
      (Or.inr List.mem_cons_self)
  rooted :=
    h.rooted.descend h.nodup_path (h.nodup_pending hnodup) h.leads_next h.node_discovered
      (h.accounted.not_discovered next hnext)

/-- The search records an arrow back to the path. -/
theorem back (hnodup : ∀ v, (graph.successors v).Nodup)
    (hnext : next ∈ pathOf (⟨node, pending⟩ :: frames)) :
    Invariant graph pool (search.closeCycle (pathOf (⟨node, pending⟩ :: frames)) node next)
      (⟨node, pending⟩ :: frames) tree finished where
  accounted := h.accounted.advance.closeCycle _ _ _
  settled := h.settled.mono (List.subset_append_left _ _)
  examined :=
    h.examined.advance (List.subset_append_left _ _) (List.Subset.refl _)
      (Or.inl (List.mem_append_right _ List.mem_cons_self))
  rooted :=
    h.rooted.closeCycle h.nodup_path (h.nodup_pending hnodup) h.leads_next h.node_discovered hnext

/-- The search passes over an arrow to a finished node. -/
theorem cross (hpool : next ∈ pool) (hnext : next ∉ search.undiscovered)
    (hpath : next ∉ pathOf (⟨node, pending⟩ :: frames)) :
    Invariant graph pool search (⟨node, pending⟩ :: frames) tree finished where
  accounted := h.accounted.advance
  settled := h.settled
  examined := by
    refine h.examined.advance (List.Subset.refl _) (List.Subset.refl _) (Or.inr ?_)
    have hdiscovered := h.accounted.discovered_of_not_mem hpool hnext
    refine (h.accounted.advance.mem_discovered.mp hdiscovered).resolve_left fun hmem => hpath ?_
    exact List.mem_reverse.mpr hmem
  rooted := h.rooted.advance

end Look

/-! ## Searching from a path -/

/-- A search from a path keeps the invariant, finishes the path and discovers nodes in depth-first
order. -/
theorem explore (h : Invariant graph pool search frames tree finished)
    (hnodup : ∀ v, (graph.successors v).Nodup)
    (hpool : ∀ v w, graph.Leads v w → w ∈ pool) :
    (∃ tree' finished', Invariant graph pool (explore graph search frames) [] tree' finished') ∧
      Visits graph.successors search.discovered (frames.flatMap Frame.pending)
        (Search.explore graph search frames).discovered := by
  -- The induction follows the steps of the search, each of which keeps the invariant.
  fun_induction Search.explore graph search frames generalizing tree finished with
  | case1 search => exact ⟨⟨tree, finished, h⟩, .done⟩
  | case2 search node frames ih => exact ih h.finish
  | case3 search node next pending frames hnext ih =>
    obtain ⟨hinv, hvisits⟩ := ih (h.descend hnodup hnext)
    refine ⟨hinv, ?_⟩
    rw [List.flatMap_cons, List.cons_append]
    exact .enter_append (h.accounted.not_discovered next hnext) hvisits
  | case4 search node next pending frames hnext hpath ih =>
    obtain ⟨hinv, hvisits⟩ := ih (h.back hnodup hpath)
    have hlead := hpool node next h.leads_next
    exact ⟨hinv, .skip (h.accounted.discovered_of_not_mem hlead hnext) hvisits⟩
  | case5 search node next pending frames hnext hpath ih =>
    have hlead := hpool node next h.leads_next
    obtain ⟨hinv, hvisits⟩ := ih (h.cross hlead hnext hpath)
    exact ⟨hinv, .skip (h.accounted.discovered_of_not_mem hlead hnext) hvisits⟩

/-- A search from a root discovers it and what lies below it, unless it was discovered before. -/
theorem exploreRoot (h : Invariant graph pool search [] tree finished)
    (hnodup : ∀ v, (graph.successors v).Nodup)
    (hpool : ∀ v w, graph.Leads v w → w ∈ pool) {root : Name} (hroot : root ∈ pool) :
    (∃ tree' finished', Invariant graph pool (exploreRoot graph search root) [] tree' finished') ∧
      Visits graph.successors search.discovered [root]
        (Search.exploreRoot graph search root).discovered := by
  rw [Search.exploreRoot]
  by_cases hmem : root ∈ search.undiscovered
  · rw [if_pos hmem]
    have hnew := h.accounted.not_discovered root hmem
    have hstart : Invariant graph pool (search.discover root) [⟨root, graph.successors root⟩]
        tree finished :=
      { accounted := h.accounted.discover hmem _
        settled := h.settled
        examined := ⟨⟨[], rfl, fun w hw => absurd hw List.not_mem_nil⟩, trivial⟩
        rooted := h.rooted.discover hnew }
    obtain ⟨hinv, hvisits⟩ := hstart.explore hnodup hpool
    rw [List.flatMap_cons, List.flatMap_nil, List.append_nil] at hvisits
    exact ⟨hinv, .enter hnew hvisits .done⟩
  · rw [if_neg hmem]
    exact ⟨⟨tree, finished, h⟩, .skip (h.accounted.discovered_of_not_mem hroot hmem) .done⟩

/-- Searches from several roots go on one after the other. -/
theorem foldl_exploreRoot (h : Invariant graph pool search [] tree finished)
    (hnodup : ∀ v, (graph.successors v).Nodup)
    (hpool : ∀ v w, graph.Leads v w → w ∈ pool) {roots : List Name} (hroots : roots ⊆ pool) :
    (∃ tree' finished',
        Invariant graph pool (roots.foldl (Search.exploreRoot graph) search) [] tree' finished') ∧
      Visits graph.successors search.discovered roots
        (roots.foldl (Search.exploreRoot graph) search).discovered := by
  induction roots generalizing search tree finished with
  | nil => exact ⟨⟨tree, finished, h⟩, .done⟩
  | cons root roots ih =>
    obtain ⟨hroot, hroots⟩ := List.cons_subset.mp hroots
    obtain ⟨⟨tree', finished', hinv⟩, hvisits⟩ := h.exploreRoot hnodup hpool hroot
    obtain ⟨hinv', hvisits'⟩ := ih hinv hroots
    exact ⟨hinv', hvisits.append hvisits'⟩

end Invariant

/-! ## Searching a whole graph -/

/-- The nodes that the search of a graph knows of. -/
def poolOf (entry : Name) (graph : Adjacency) : List Name :=
  entry :: (graph.sources ++ graph.targets)

theorem invariant_start (entry : Name) (graph : Adjacency) :
    Invariant graph (poolOf entry graph) (start entry graph) [] [] [] where
  accounted :=
    { mem_pool := fun v => by simp [poolOf, start, mem_distinct]
      nodup_undiscovered := nodup_distinct _
      not_discovered := fun v _ => List.not_mem_nil
      perm := .refl _
      nodup := .nil }
  settled := trivial
  examined := trivial
  rooted :=
    { leads := by simp [start]
      source_mem := by simp [start]
      nodup := .nil
      unused := by simp
      chain := .nil
      closes := .nil }

theorem roots_subset_poolOf (entry : Name) (graph : Adjacency) :
    roots entry graph ⊆ poolOf entry graph :=
  List.cons_subset_cons _ (List.subset_append_left _ _)

variable (entry : Name) (edges : List Edge)

theorem leads_poolOf {v w : Name} (h : (Adjacency.ofEdges edges).Leads v w) :
    w ∈ poolOf entry (Adjacency.ofEdges edges) := by
  refine List.mem_cons_of_mem _ (List.mem_append_right _ ?_)
  exact Adjacency.mem_targets_ofEdges.mpr ⟨v, Adjacency.leads_ofEdges.mp h⟩

/-- The search of a whole graph ends with every discovered node finished. -/
theorem exists_invariant_run :
    ∃ tree finished, Invariant (Adjacency.ofEdges edges) (poolOf entry (Adjacency.ofEdges edges))
      (run entry (Adjacency.ofEdges edges)) [] tree finished :=
  ((invariant_start entry _).foldl_exploreRoot (Adjacency.nodup_successors_ofEdges edges)
    (fun _ _ => leads_poolOf entry edges) (roots_subset_poolOf entry _)).1

/-- The search of a whole graph discovers nodes in depth-first order, from the entry on and then
from every source. -/
theorem visits_run :
    Visits (Adjacency.ofEdges edges).successors [] (roots entry (Adjacency.ofEdges edges))
      (run entry (Adjacency.ofEdges edges)).discovered :=
  ((invariant_start entry _).foldl_exploreRoot (Adjacency.nodup_successors_ofEdges edges)
    (fun _ _ => leads_poolOf entry edges) (roots_subset_poolOf entry _)).2

end FlowDiagram.Search
