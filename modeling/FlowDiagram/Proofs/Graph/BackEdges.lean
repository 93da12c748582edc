import FlowDiagram.Graph.Cycle
import FlowDiagram.Proofs.Graph.DepthFirst

/-!
# Back edges

The back edges of a flow are a feedback set of its graph: without them no cycle of arrows is left,
and every one of them closes a cycle whose other arrows are no back edges. So none of them could be
spared.

The nodes that a search finishes are a topological order of what is left: every arrow that is no
back edge leads to a node that finished before.

## Main definitions

* `ArrowWithout`: an arrow that is left when some are removed.
* `MinimalFeedback`: what the arrows to remove have to satisfy.
-/

namespace FlowDiagram

open Relation

/-- An arrow of some edges that is not among the removed ones. -/
def ArrowWithout (edges : List Edge) (removed : List (Name × Name)) (source target : Name) : Prop :=
  Arrow edges source target ∧ (source, target) ∉ removed

/-- No nonempty sequence of arrows leads from a node to itself. -/
def Acyclic (arrow : Name → Name → Prop) : Prop :=
  ∀ node, ¬ TransGen arrow node node

/-- A set of arrows whose removal leaves no cycle, and no part of which would do. -/
structure MinimalFeedback (edges : List Edge) (removed : List (Name × Name)) : Prop where
  nodup : removed.Nodup
  subset : removed ⊆ edges.map Edge.ends
  acyclic : Acyclic (ArrowWithout edges removed)
  /-- The rest of the cycle that a removed arrow closes. -/
  closes : ∀ source target, (source, target) ∈ removed →
    ReflTransGen (ArrowWithout edges removed) target source
  /-- A cycle comes back with any single arrow. -/
  restored : ∀ arrow ∈ removed, ¬ Acyclic (ArrowWithout edges (removed.erase arrow))
  minimal : ∀ fewer ⊆ removed, Acyclic (ArrowWithout edges fewer) → removed ⊆ fewer

/-- Removing less leaves more arrows. -/
theorem ArrowWithout.mono {edges : List Edge} {fewer removed : List (Name × Name)}
    (hsubset : fewer ⊆ removed) {source target : Name}
    (h : ArrowWithout edges removed source target) :
    ArrowWithout edges fewer source target :=
  ⟨h.1, fun hmem => h.2 (hsubset hmem)⟩

/-- An arrow that closes a cycle with arrows that are left brings the cycle back when it is not
removed. -/
theorem not_acyclic_of_closes {edges : List Edge} {fewer removed : List (Name × Name)}
    {source target : Name} (hsubset : fewer ⊆ removed) (harrow : Arrow edges source target)
    (hclose : ReflTransGen (ArrowWithout edges removed) target source)
    (hkept : (source, target) ∉ fewer) : ¬ Acyclic (ArrowWithout edges fewer) := by
  intro hacyclic
  have hback : ReflTransGen (ArrowWithout edges fewer) target source :=
    ReflTransGen.mono (fun _ _ h => h.mono hsubset) _ _ hclose
  exact hacyclic source (TransGen.head' ⟨harrow, hkept⟩ hback)

namespace Search

variable {graph : Adjacency} {finished : List Name} {backEdges : List (Name × Name)}

/-! ## The order in which nodes finish -/

/-- What the arrows that are no back edges lead to from a finished node is finished, too. -/
theorem Settled.mem_of_leads (h : Settled graph backEdges finished) {v w : Name}
    (hv : v ∈ finished) (hlead : graph.Leads v w) (hforward : (v, w) ∉ backEdges) :
    w ∈ finished := by
  induction finished with
  | nil => exact absurd hv List.not_mem_nil
  | cons node older ih =>
    rcases List.mem_cons.mp hv with rfl | hv
    · exact List.mem_cons_of_mem v ((h.1 w hlead).resolve_left hforward)
    · exact List.mem_cons_of_mem node (ih h.2 hv)

theorem Settled.mem_of_path (h : Settled graph backEdges finished) {v w : Name} (hv : v ∈ finished)
    (hpath : ReflTransGen (fun a b => graph.Leads a b ∧ (a, b) ∉ backEdges) v w) :
    w ∈ finished := by
  induction hpath with
  | refl => exact hv
  | tail _ harrow ih => exact h.mem_of_leads ih harrow.1 harrow.2

/-- The arrows that are no back edges make no cycle through a finished node. -/
theorem Settled.acyclic (h : Settled graph backEdges finished) (hnodup : finished.Nodup) {v : Name}
    (hv : v ∈ finished) :
    ¬ TransGen (fun a b => graph.Leads a b ∧ (a, b) ∉ backEdges) v v := by
  induction finished with
  | nil => exact absurd hv List.not_mem_nil
  | cons node older ih =>
    obtain ⟨hnode, hnodup⟩ := List.nodup_cons.mp hnodup
    rcases List.mem_cons.mp hv with rfl | hv
    · -- A cycle through the node that finished last leaves it for the older ones and stays there.
      intro hcycle
      obtain ⟨w, ⟨hlead, hforward⟩, hback⟩ := TransGen.head'_iff.mp hcycle
      exact hnode (h.2.mem_of_path ((h.1 w hlead).resolve_left hforward) hback)
    · exact ih h.2 hnodup hv

/-! ## Cycles of tree arrows -/

/-- The arrows of a sequence of nodes lead from its first node to its last. -/
theorem path_of_isChain {arrow : Name → Name → Prop} {path : List Name} {first last : Name}
    (hfirst : path.head? = some first) (hlast : path.getLast? = some last)
    (hchain : path.IsChain arrow) : ReflTransGen arrow first last := by
  induction path generalizing first with
  | nil => simp at hfirst
  | cons node path ih =>
    obtain rfl : node = first := by simpa using hfirst
    cases path with
    | nil =>
      obtain rfl : node = last := by simpa using hlast
      exact .refl
    | cons next path =>
      obtain ⟨harrow, hchain⟩ := List.isChain_cons_cons.mp hchain
      exact .head harrow (ih rfl (by simpa using hlast) hchain)

/-- Lists that correspond item by item have a partner for every item of the first. -/
theorem exists_of_forall₂ {α β : Type} {related : α → β → Prop} {items : List α} {others : List β}
    (h : List.Forall₂ related items others) {a : α} (ha : a ∈ items) :
    ∃ b ∈ others, related a b := by
  induction h with
  | nil => exact absurd ha List.not_mem_nil
  | @cons first other items others hfirst _ ih =>
    rcases List.mem_cons.mp ha with rfl | ha
    · exact ⟨other, List.mem_cons_self, hfirst⟩
    · obtain ⟨b, hb, hrelated⟩ := ih ha
      exact ⟨b, List.mem_cons_of_mem other hb, hrelated⟩

/-- Every back edge has a cycle that it closes. -/
theorem exists_closes {tree : List (Name × Name)} {cycles : List (List Name)}
    (h : List.Forall₂ (Closes tree) backEdges cycles) {back : Name × Name}
    (hback : back ∈ backEdges) : ∃ cycle ∈ cycles, Closes tree back cycle :=
  exists_of_forall₂ h hback

/-- Every cycle is closed by a back edge. -/
theorem exists_of_mem_cycles {tree : List (Name × Name)} {cycles : List (List Name)}
    (h : List.Forall₂ (Closes tree) backEdges cycles) {cycle : List Name}
    (hcycle : cycle ∈ cycles) : ∃ back ∈ backEdges, Closes tree back cycle :=
  exists_of_forall₂ h.flip hcycle

/-! ## The back edges of a search -/

section Run

variable (entry : Name) (edges : List Edge)

/-- Every node that an arrow leads from or to is discovered. -/
theorem discovered_run_of_arrow {v w : Name} (h : Arrow edges v w) :
    v ∈ (run entry (Adjacency.ofEdges edges)).discovered ∧
      w ∈ (run entry (Adjacency.ofEdges edges)).discovered := by
  have hvisits := visits_run entry edges
  have hv : v ∈ (run entry (Adjacency.ofEdges edges)).discovered :=
    hvisits.mem_of_mem (List.mem_cons_of_mem entry (Adjacency.mem_sources_ofEdges.mpr ⟨w, h⟩))
  exact ⟨hv, hvisits.mem_of_next hv List.not_mem_nil (Adjacency.leads_ofEdges.mpr h)⟩

theorem nodup_discovered_run : (run entry (Adjacency.ofEdges edges)).discovered.Nodup := by
  obtain ⟨tree, finished, hinv⟩ := exists_invariant_run entry edges
  exact hinv.accounted.nodup

theorem acyclic_run :
    Acyclic (ArrowWithout edges (run entry (Adjacency.ofEdges edges)).backEdges) := by
  obtain ⟨tree, finished, hinv⟩ := exists_invariant_run entry edges
  intro v hcycle
  obtain ⟨w, harrow, -⟩ := TransGen.head'_iff.mp hcycle
  have hv : v ∈ finished :=
    hinv.accounted.mem_discovered.mp (discovered_run_of_arrow entry edges harrow.1).1
      |>.resolve_left List.not_mem_nil
  have hnodup : finished.Nodup := hinv.accounted.perm.nodup_iff.mp hinv.accounted.nodup
  refine hinv.settled.acyclic hnodup hv (TransGen.mono (fun a b hab => ?_) v v hcycle)
  exact ⟨Adjacency.leads_ofEdges.mpr hab.1, hab.2⟩

/-- Tree arrows lead from the target of a back edge to its source. -/
theorem closes_run {source target : Name}
    (hback : (source, target) ∈ (run entry (Adjacency.ofEdges edges)).backEdges) :
    ReflTransGen (ArrowWithout edges (run entry (Adjacency.ofEdges edges)).backEdges)
      target source := by
  obtain ⟨tree, finished, hinv⟩ := exists_invariant_run entry edges
  obtain ⟨cycle, -, hfirst, hlast, hchain⟩ := exists_closes hinv.rooted.closes hback
  refine path_of_isChain hfirst hlast (hchain.imp fun a b htree => ⟨?_, fun hmem => ?_⟩)
  · exact Adjacency.leads_ofEdges.mp (hinv.rooted.leads (a, b) (List.mem_append_left _ htree))
  · exact List.disjoint_of_nodup_append hinv.rooted.nodup htree hmem

theorem arrow_of_backEdges_run {source target : Name}
    (hback : (source, target) ∈ (run entry (Adjacency.ofEdges edges)).backEdges) :
    Arrow edges source target := by
  obtain ⟨tree, finished, hinv⟩ := exists_invariant_run entry edges
  exact Adjacency.leads_ofEdges.mp (hinv.rooted.leads _ (List.mem_append_right _ hback))

/-- A back edge leads to a node that lies on a cycle. -/
theorem transGen_of_mem_backEdges_run {back : Name × Name}
    (hback : back ∈ (run entry (Adjacency.ofEdges edges)).backEdges) :
    TransGen (Arrow edges) back.2 back.2 := by
  have hclose : ReflTransGen (Arrow edges) back.2 back.1 :=
    ReflTransGen.mono (fun _ _ h => h.1) _ _ (closes_run entry edges hback)
  exact TransGen.tail' hclose (arrow_of_backEdges_run entry edges hback)

theorem nodup_backEdges_run : (run entry (Adjacency.ofEdges edges)).backEdges.Nodup := by
  obtain ⟨tree, finished, hinv⟩ := exists_invariant_run entry edges
  exact hinv.rooted.nodup.of_append_right

theorem minimalFeedback_run :
    MinimalFeedback edges (run entry (Adjacency.ofEdges edges)).backEdges where
  nodup := nodup_backEdges_run entry edges
  subset := fun _ h => arrow_of_backEdges_run entry edges h
  acyclic := acyclic_run entry edges
  closes _ _ h := closes_run entry edges h
  restored := fun arrow h =>
    not_acyclic_of_closes List.erase_subset (arrow_of_backEdges_run entry edges h)
      (closes_run entry edges h) (nodup_backEdges_run entry edges).not_mem_erase
  minimal := by
    intro fewer hsubset hacyclic arrow harrow
    by_contra hmem
    exact not_acyclic_of_closes hsubset (arrow_of_backEdges_run entry edges harrow)
      (closes_run entry edges harrow) hmem hacyclic

end Run

end Search

namespace CycleAnalysis

@[simp] theorem backEdges_ofEdges (entry : Name) (edges : List Edge) :
    (ofEdges entry edges).backEdges = (Search.run entry (Adjacency.ofEdges edges)).backEdges :=
  rfl

/-- The cycles of edges depend on their ends only. -/
theorem ofEdges_congr (entry : Name) {edges others : List Edge}
    (h : edges.map Edge.ends = others.map Edge.ends) : ofEdges entry edges = ofEdges entry others := by
  rw [ofEdges, ofEdges, Adjacency.ofEdges_congr h]

/-- A flow has a cycle if its analysis reports one. -/
theorem hasCycles_iff (entry : Name) (edges : List Edge) :
    (ofEdges entry edges).hasCycles = true ↔ ∃ v, TransGen (Arrow edges) v v := by
  have hminimal := Search.minimalFeedback_run entry edges
  rw [hasCycles, backEdges_ofEdges, Bool.not_eq_true', List.isEmpty_eq_false_iff]
  constructor
  · intro hne
    obtain ⟨⟨source, target⟩, hback⟩ := List.exists_mem_of_ne_nil _ hne
    refine ⟨source, TransGen.head' (hminimal.subset hback) ?_⟩
    exact ReflTransGen.mono (fun _ _ h => h.1) _ _ (hminimal.closes source target hback)
  · rintro ⟨v, hcycle⟩ hnil
    refine hminimal.acyclic v (TransGen.mono (fun a b hab => ⟨hab, ?_⟩) v v hcycle)
    rw [hnil]
    exact List.not_mem_nil

/-- The back edges of a flow are a minimal feedback set of its graph, which is empty only if the
graph has no cycle. -/
theorem minimalFeedback_ofEdges (entry : Name) (edges : List Edge) :
    MinimalFeedback edges (ofEdges entry edges).backEdges ∧
      ((ofEdges entry edges).hasCycles = true ↔ ∃ v, TransGen (Arrow edges) v v) :=
  ⟨Search.minimalFeedback_run entry edges, hasCycles_iff entry edges⟩

end CycleAnalysis

end FlowDiagram
