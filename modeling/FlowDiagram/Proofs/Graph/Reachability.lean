import FlowDiagram.Proofs.Graph.Walk
import FlowDiagram.Proofs.Sequence.Turns

/-!
# What a walk reaches

A walk visits the activities that its entry leads to, each once, and takes from each the edges that
its processor declares. The walk is described twice: by the facts alone, and as a loop that takes
one activity at a time from a list of pending ones. The loop comes to an end on any facts, however
cyclic they are, since every turn either makes the list shorter or visits a processor for the first
time.

## Main definitions

* `Follows`: some transition leads from one activity to another.
* `Walk.Turn`: one turn of the loop.
* `ReachableFlow`: the flow that an entry leads to.

`Walk.reachableFlow_along` is the main result.
-/

namespace FlowDiagram

open Relation

/-! ## What facts declare -/

/-- Some transition of an activity's processor leads to another activity. The end of a flow is no
activity. -/
def Follows (index : FactIndex) (activity next : Name) : Prop :=
  next ≠ endNode ∧ ∃ processor, index.processor? activity = some processor ∧
    ∃ transition ∈ processor.transitions, next ∈ transition.targets

/-- What follows an activity in a walk follows it by the facts. -/
theorem mem_following_iff {index : FactIndex} {options : DrawingOptions} {activity next : Name} :
    next ∈ Walk.following index options activity ↔ Follows index activity next := by
  rw [Walk.following, Walk.mem_activitiesAfter, Follows]
  refine and_congr_right fun hnext => ?_
  cases hprocessor : index.processor? activity with
  | none => simp [outgoing_of_none hprocessor]
  | some processor =>
    rw [outgoing_of_some hprocessor]
    constructor
    · rintro ⟨edge, hedge, rfl⟩
      rcases states_or_end hedge with ⟨⟨transition, target⟩, hdeclared, hstates⟩ | rfl
      · obtain ⟨htransition, htarget⟩ := mem_declarations.mp hdeclared
        exact ⟨processor, rfl, transition, htransition, hstates.target ▸ htarget⟩
      · exact absurd rfl hnext
    · rintro ⟨other, hother, transition, htransition, htarget⟩
      obtain rfl := Option.some.inj hother
      obtain ⟨edge, hedge, hstates⟩ :=
        exists_states options (mem_declarations.mpr ⟨htransition, htarget⟩)
      exact ⟨edge, hedge, hstates.target⟩

/-- The edges out of an activity are those that its processor declares, and none if it has no
processor. -/
def Leaves (index : FactIndex) (options : DrawingOptions) (activity : Name) (edges : List Edge) :
    Prop :=
  match index.processor? activity with
  | none => edges = []
  | some processor => Outbound options processor edges

theorem leaves_outgoing (index : FactIndex) (options : DrawingOptions) (activity : Name) :
    Leaves index options activity (outgoing index options activity) := by
  unfold Leaves outgoing
  cases index.processor? activity with
  | none => rfl
  | some processor => exact outbound_edgesOf options processor

/-- No edge is marked before the cycles of a flow are known. -/
theorem isBackEdge_of_mem_outgoing {index : FactIndex} {options : DrawingOptions} {activity : Name}
    {edge : Edge} (h : edge ∈ outgoing index options activity) : edge.isBackEdge = false := by
  obtain ⟨processor, -, h⟩ := mem_outgoing_iff.mp h
  rcases states_or_end h with ⟨_, _, hstates⟩ | rfl
  · exact hstates.isBackEdge
  · rfl

namespace Walk

variable {index : FactIndex} {options : DrawingOptions}

/-! ## The loop -/

/-- One turn of the loop: the first pending activity is skipped if it was visited; otherwise it is
visited, and those behind it that were not visited become pending in front of the others. -/
inductive Turn (index : FactIndex) (options : DrawingOptions) :
    Walk × List Name → Walk × List Name → Prop
  /-- The activity was visited. -/
  | skip {walk : Walk} {activity : Name} {pending : List Name} (h : activity ∈ walk.visited) :
    Turn index options (walk, activity :: pending) (walk, pending)
  /-- The activity has no processor. -/
  | missing {walk : Walk} {activity : Name} {pending : List Name} (h : activity ∉ walk.visited)
      (hnone : index.processor? activity = none) :
    Turn index options (walk, activity :: pending) (walk.visitMissing activity, pending)
  /-- The activity has a processor. -/
  | expand {walk : Walk} {activity : Name} {pending : List Name} {processor : ProcessorFact}
      (h : activity ∉ walk.visited) (hsome : index.processor? activity = some processor) :
    Turn index options (walk, activity :: pending)
      (walk.visit activity (edgesOf options processor),
        (activitiesAfter (edgesOf options processor)).filter (· ∉ walk.visited ++ [activity]) ++
          pending)

/-- How much is left to do: the processors not yet visited, then what is pending. -/
def rank (index : FactIndex) (state : Walk × List Name) : Nat × Nat :=
  ((unseen index.processors.keys state.1.visited.contains).length, state.2.length)

theorem rank_turn {state next : Walk × List Name} (h : Turn index options state next) :
    Prod.Lex (· < ·) (· < ·) (rank index next) (rank index state) := by
  cases h with
  | skip h => exact .right _ (Nat.lt_succ_self _)
  | @missing walk activity pending h hnone =>
    rcases Nat.lt_or_eq_of_le
      (length_unseen_append_le index.processors.keys walk.visited activity) with hlt | heq
    · exact .left _ _ hlt
    · rw [rank, rank, visitMissing, heq]
      exact .right _ (Nat.lt_succ_self _)
  | expand h hsome =>
    exact .left _ _ (length_unseen_append_lt (Table.mem_keys_of_get? hsome) h)

/-- The loop comes to an end. -/
theorem acc_turn (index : FactIndex) (options : DrawingOptions) (state : Walk × List Name) :
    Acc (flip (Turn index options)) state :=
  acc_of_rank (rank index) (fun _ _ => rank_turn) state

/-- The loop has a turn to take as long as something is pending. -/
theorem exists_turn (index : FactIndex) (options : DrawingOptions) (walk : Walk) (activity : Name)
    (pending : List Name) : ∃ next, Turn index options (walk, activity :: pending) next := by
  by_cases h : activity ∈ walk.visited
  · exact ⟨_, .skip h⟩
  · cases hprocessor : index.processor? activity with
    | none => exact ⟨_, .missing h hprocessor⟩
    | some processor => exact ⟨_, .expand h hprocessor⟩

/-- No turn changes where the walk ends. -/
theorem continueFrom_turn {state next : Walk × List Name} (h : Turn index options state next) :
    continueFrom index options state.1 state.2 = continueFrom index options next.1 next.2 := by
  cases h with
  | skip h => exact continueFrom_of_mem h
  | missing h hnone => exact continueFrom_of_none h hnone
  | @expand walk activity pending processor h hsome =>
    have hvisited : walk.visited ++ [activity] ⊆
        (walk.visit activity (edgesOf options processor)).visited := List.Subset.refl _
    dsimp only
    rw [continueFrom_of_some h hsome, continueFrom_append, continueFrom_append,
      continueFrom_filter index options hvisited]

/-- The loop ends with nothing pending, and what it has met is the walk. -/
theorem turns_iff {state : Walk × List Name} {walk : Walk} :
    ReflTransGen (Turn index options) state (walk, []) ↔
      walk = continueFrom index options state.1 state.2 := by
  refine reflTransGen_iff_of_turn (fun walk => (walk, [])) (acc_turn index options)
    (fun _ _ => continueFrom_turn) (fun walk => continueFrom_nil) fun state => ?_
  obtain ⟨walk, pending⟩ := state
  cases pending with
  | nil => exact Or.inl ⟨walk, rfl⟩
  | cons activity pending => exact Or.inr (exists_turn index options walk activity pending)

end Walk

/-! ## The flow that an entry leads to -/

/-- The flow that an entry leads to: the activities that can be reached, each once and the entry
first, those without a processor among them, and the edges out of them, activity by activity. -/
structure ReachableFlow (index : FactIndex) (options : DrawingOptions) (entry : Name)
    (walk : Walk) : Prop where
  entry_eq : walk.entry = entry
  nodup : walk.visited.Nodup
  head? : walk.visited.head? = some entry
  mem_visited : ∀ name, name ∈ walk.visited ↔ ReflTransGen (Follows index) entry name
  missing_eq : walk.missing = walk.visited.filter fun name => (index.processor? name).isNone
  edges : ∃ parts, List.Forall₂ (Leaves index options) walk.visited parts ∧
    walk.edges = parts.flatten
  reachesEnd : walk.reachesEnd = true ↔ ∃ edge ∈ walk.edges, edge.target = endNode

namespace Walk

variable (index : FactIndex) (options : DrawingOptions) (entry : Name)

/-- The entry is visited first. -/
theorem head?_visited_along : (along index options entry).visited.head? = some entry := by
  cases visits_along index options entry with
  | skip h _ => exact absurd h List.not_mem_nil
  | enter _ below rest =>
    obtain ⟨more, hmore⟩ := below.isPrefix.trans rest.isPrefix
    rw [← hmore]
    rfl

/-- A walk visits what its entry leads to. -/
theorem mem_visited_along {name : Name} :
    name ∈ (along index options entry).visited ↔ ReflTransGen (Follows index) entry name := by
  have hvisits := visits_along index options entry
  constructor
  · intro hname
    obtain ⟨start, hstart, hpath⟩ := (hvisits.reached hname).resolve_left List.not_mem_nil
    rw [List.mem_singleton.mp hstart] at hpath
    exact ReflTransGen.mono (fun _ _ h => mem_following_iff.mp h) _ _ hpath
  · intro hpath
    induction hpath with
    | refl => exact hvisits.mem_of_mem List.mem_cons_self
    | tail _ hfollows ih =>
      exact hvisits.mem_of_next ih List.not_mem_nil (mem_following_iff.mpr hfollows)

/-- What a walk has met is the flow that its entry leads to. -/
theorem reachable_along : ReachableFlow index options entry (along index options entry) := by
  have hconsistent := consistent_along index options entry
  refine ⟨entry_along index options entry, nodup_visited_along index options entry,
    head?_visited_along index options entry, fun name => mem_visited_along index options entry,
    hconsistent.missing_eq, ?_, ?_⟩
  · refine ⟨(along index options entry).visited.map (outgoing index options), ?_, ?_⟩
    · refine List.forall₂_map_right_iff.mpr (List.forall₂_same.mpr fun activity _ => ?_)
      exact leaves_outgoing index options activity
    · rw [hconsistent.edges_eq, List.flatMap_def]
  · rw [hconsistent.reachesEnd_eq, List.any_eq_true]
    simp

/-- The loop of a walk comes to an end on all facts, with nothing pending, and what it has met is
the flow that its entry leads to. -/
theorem reachableFlow_along :
    Acc (flip (Turn index options)) ({ entry }, [entry]) ∧
      (∀ walk, ReflTransGen (Turn index options) ({ entry }, [entry]) (walk, []) ↔
        walk = along index options entry) ∧
      ReachableFlow index options entry (along index options entry) :=
  ⟨acc_turn index options _, fun _ => turns_iff, reachable_along index options entry⟩

end Walk

end FlowDiagram
