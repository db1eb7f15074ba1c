import TaskRunner.Proofs.Execution.Order

/-! How a run ends whose runner refuses an action. It did what it would have done anyway, up to that
action and nothing behind it. The tasks that did not finish lead from the root down to the task of
that action. -/

namespace TaskRunner
open Move

variable {σ : Type} {g : Graph} {runner : Runner σ} {store declared : Store} {root : String}
  {state : σ} {moves : List Move} {p : Progress σ}

def Event.startedTask? : Event → Option String
  | .started name => some name
  | _ => none

theorem Event.finished_mem_iff {trace : List Event} {name : String} :
    .finished name ∈ trace ↔ name ∈ trace.filterMap Event.finishedTask? := by
  rw [List.mem_filterMap]
  constructor
  · exact fun member => ⟨_, member, rfl⟩
  · rintro ⟨event, member, named⟩
    cases event <;> cases named
    exact member

/-- The tasks that were started and did not finish, in the order of their starts. -/
def unfinished (trace : List Event) : List String :=
  (trace.filterMap Event.startedTask?).filter fun name => .finished name ∉ trace

theorem filterMap_startedTask?_trace (g : Graph) (store : Store) (moves : List Move)
    (actions : List String) :
    (moves.flatMap (Move.trace g store) ++ Event.ofActions actions).filterMap Event.startedTask? =
      (entries moves).map g.name := by
  rw [filterMap_trace fun _ => rfl, entries, List.map_filterMap]
  apply List.filterMap_congr
  intro move _
  cases move <;> rfl

section Closure
variable (closed : g.Closure declared root) (walk : Walk g g.satisfied [g.root] moves)
include closed walk

theorem Walk.name_mem_iff {front : List Move} (part : front <+: moves) {id : Nat}
    (inside : id < g.size) : g.name id ∈ (exits front).map g.name ↔ id ∈ exits front := by
  refine ⟨fun member => ?_, List.mem_map_of_mem⟩
  obtain ⟨other, left, same⟩ := List.mem_map.mp member
  have within := walk.lt_size_of_exit closed ((part.filterMap left?).subset left)
  exact closed.name_injective within inside same ▸ left

theorem Walk.unfinished_eq {front : List Move} (part : front <+: moves) (actions : List String) :
    unfinished (front.flatMap (Move.trace g store) ++ Event.ofActions actions) =
      (pending front).map g.name := by
  unfold unfinished pending
  rw [filterMap_startedTask?_trace, List.filter_map]
  congr 1
  apply List.filter_congr
  intro id entered
  have left := (walk.mem_entries_iff id).mp ((part.filterMap entered?).subset entered)
  rw [Function.comp_apply, decide_eq_decide, Event.finished_mem_iff, filterMap_finishedTask?_trace,
    walk.name_mem_iff closed part (walk.lt_size_of_exit closed left)]

theorem Walk.newly_marked_iff {front : List Move} (part : front <+: moves)
    (satisfied : p.graph.satisfied = Marks.adding g.satisfied (exits front))
    (finished : p.trace.filterMap Event.finishedTask? = (exits front).map g.name) {id : Nat}
    (inside : id < g.size) :
    g.satisfied id = false ∧ p.graph.satisfied id = true ↔ .finished (g.name id) ∈ p.trace := by
  rw [Event.finished_mem_iff, finished, walk.name_mem_iff closed part inside, satisfied,
    Marks.adding_eq_true]
  constructor
  · rintro ⟨unmarked, marked | left⟩
    · simp [unmarked] at marked
    · exact left
  · exact fun left => ⟨walk.unmarked_of_exit ((part.filterMap left?).subset left), .inr left⟩

end Closure

theorem Halted.trace_lt {front back : List Move} {id : Nat} {e : ActionError}
    (split : moves = front ++ .leave id :: back)
    (halted : Halted g store runner state front id e p) :
    p.trace <+: moves.flatMap (Move.trace g store) ∧
      p.trace ≠ moves.flatMap (Move.trace g store) := by
  obtain ⟨before, later, own, trace⟩ := halted.trace
  have whole : moves.flatMap (Move.trace g store) =
      p.trace ++ (Event.ofActions later ++ .finished (g.name id) ::
        back.flatMap (Move.trace g store)) := by
    rw [split, trace, List.flatMap_append, List.flatMap_cons, Move.trace, own]
    simp [Event.ofActions]
  rw [whole]
  exact ⟨List.prefix_append .., fun same => by simpa using List.self_eq_append_right.mp same⟩

theorem Halted.breaks_off {front back : List Move} {id : Nat} {e : ActionError}
    (split : moves = front ++ .leave id :: back)
    (halted : Halted g store runner state front id e p) :
    ∃ first rest, p.trace = first ++ [.ran e.action []] ∧
      moves.flatMap (Move.trace g store) = first ++ .ran e.action [] :: rest := by
  obtain ⟨rest, whole⟩ := (halted.trace_lt split).1
  obtain ⟨before, _, _, trace⟩ := halted.trace
  rw [Event.ofActions, List.map_append, ← List.append_assoc] at trace
  refine ⟨_, rest, trace, ?_⟩
  rw [← whole, trace, List.append_assoc]
  rfl

/-- A run that an action of this task ended. -/
structure EndedBy (dependencies : DependencyMap) (root : String) (runner : Runner σ) (state : σ)
    (store : Store) (ended : Except ActionError (List String) × Execution σ) (task : String)
    (e : ActionError) : Prop where
  answer : ended.1 = .error e
  refused : runner.Refuses state ended.2.executedActions e
  last : ended.2.trace.getLast? = some (.ran e.action [])
  own : ∃ before later, store.actions task = before ++ e.action :: later ∧
    Event.ofActions (before ++ [e.action]) <:+ ended.2.trace
  first_open : (unfinished ended.2.trace).head? = some root
  last_open : (unfinished ended.2.trace).getLast? = some task
  linked : (unfinished ended.2.trace).IsChain dependencies.Depends

theorem Halted.endedBy (closed : g.Closure declared root) (acyclic : g.Acyclic)
    (walk : Walk g g.satisfied [g.root] moves) {front back : List Move} {id : Nat} {e : ActionError}
    (split : moves = front ++ .leave id :: back)
    {ended : Except ActionError (List String) × Execution σ} (answer : ended.1 = .error e)
    (halted : Halted g store runner state front id e ended.2.progress) :
    EndedBy declared.dependencyMap root runner state store ended (g.name id) e := by
  obtain ⟨before, later, own, trace⟩ := halted.trace
  have part : front <+: moves := ⟨_, split.symm⟩
  have left_open : unfinished ended.2.trace = (pending front).map g.name := by
    rw [Execution.trace, trace, walk.unfinished_eq closed part]
  obtain ⟨first, member, head, last, linked⟩ := walk.leads_pending acyclic split
  refine ⟨answer, halted.refused, ?_, ⟨before, later, own, _, trace.symm⟩, ?_, ?_, ?_⟩
  · obtain ⟨before', _, broken, _⟩ := halted.breaks_off split
    rw [Execution.trace, broken]
    exact List.getLast?_concat
  · rw [left_open, List.head?_map, head, List.mem_singleton.mp member, closed.root_eq]
    exact congrArg some closed.name_root
  · rw [left_open, List.getLast?_map, last]
    rfl
  · rw [left_open]
    exact List.isChain_map_of_isChain g.name (fun _ _ => closed.depends_of_edge) linked

/-- A run does what it does with a runner that accepts all actions, up to the first action that its
runner refuses. The nodes that it marks are those that it announces as finished, and the tasks that
it leaves open lead from the root to the task of the refused action. -/
theorem satisfyRoot_failFast (built : Graph.build root declared = .ok g)
    (accepted : g.ensureAcyclic.1 = .ok ()) (marks : Nat → Bool) (store : Store) {τ : Type}
    {accepting : Runner τ} (accepts : accepting.Accepts) (start : τ) (runner : Runner σ)
    (state : σ) :
    let marked := g.ensureAcyclic.2.withSatisfied marks
    let full := satisfyRoot accepting store marked start
    let ended := satisfyRoot runner store marked state
    let given := ended.2.executedActions
    ended.2.trace <+: full.2.trace ∧
      (ended.2.trace = full.2.trace ↔ runner.AcceptsAll state given) ∧
      ((∃ finished, ended.1 = .ok finished) ↔ runner.AcceptsAll state given) ∧
      (∀ id, id < marked.size → (marked.satisfied id = false ∧ ended.2.graph.satisfied id = true ↔
        .finished (marked.name id) ∈ ended.2.trace)) ∧
      (¬ runner.AcceptsAll state given →
        ∃ task e, EndedBy declared.dependencyMap root runner state store ended task e) := by
  intro marked full ended given
  have shape : marked.unmarked = g.ensureAcyclic.2.unmarked := Graph.unmarked_withSatisfied ..
  have closed := (Graph.closure_of_checked built).of_shape shape.symm
  have acyclic : marked.Acyclic :=
    (Graph.acyclic_of_shape shape).mpr (Graph.acyclic_of_accepted built accepted)
  have founded := closed.founded acyclic
  obtain ⟨moves, walk⟩ := Walk.exists_of_founded founded marked.satisfied [marked.root]
  have whole : full.2.trace = _ :=
    (satisfyRoot_of_accepts founded acyclic walk accepts store start).2.trace
  rw [whole]
  rcases satisfyRoot_performs founded acyclic walk runner store state with
    ⟨answer, performed⟩ | ⟨front, id, back, e, split, answer, halted⟩
  · have accepted' : runner.AcceptsAll state given := performed.accepted
    refine ⟨?_, iff_of_true performed.trace accepted', iff_of_true ⟨_, answer⟩ accepted',
      fun id => ?_, fun refused => absurd accepted' refused⟩
    · exact performed.trace ▸ List.prefix_refl _
    · exact walk.newly_marked_iff closed (List.prefix_refl _) performed.satisfied
        performed.finishedTasks
  · have refused : ¬ runner.AcceptsAll state given := halted.refused.not_acceptsAll
    obtain ⟨part, short⟩ := halted.trace_lt split
    refine ⟨part, iff_of_false short refused, iff_of_false ?_ refused, fun id => ?_,
      fun _ => ⟨_, e, halted.endedBy closed acyclic walk split answer⟩⟩
    · rintro ⟨finished, answer'⟩
      cases answer.symm.trans answer'
    · exact walk.newly_marked_iff closed ⟨_, split.symm⟩ halted.satisfied halted.finishedTasks

def acceptsAny : Runner Unit := fun _ state => ({}, state)

theorem satisfyRoot_failFast_shared :
    ∃ g, Graph.build "all" sharedLibrary = .ok g ∧ g.ensureAcyclic.1 = .ok () ∧
      acceptsAny.Accepts ∧
      let marked := g.ensureAcyclic.2.withSatisfied (· == 2)
      let full := satisfyRoot acceptsAny libraryActions marked ()
      let ended := satisfyRoot refusesSecond libraryActions marked 0
      ended.2.trace <+: full.2.trace ∧ ended.2.trace ≠ full.2.trace ∧
        unfinished ended.2.trace = ["all", "tool", "lib"] ∧
        ∃ task e, EndedBy sharedLibrary.dependencyMap "all" refusesSecond 0 libraryActions ended
          task e := by
  have accepts : acceptsAny.Accepts := fun _ _ => rfl
  have observed : (Graph.build "all" sharedLibrary).map (fun g =>
      let ended := satisfyRoot refusesSecond libraryActions
        (g.ensureAcyclic.2.withSatisfied (· == 2)) 0
      (g.ensureAcyclic.1, ended.1, unfinished ended.2.trace)) =
        .ok (.ok (), .error ⟨"ar", .exitStatus (some 1)⟩, ["all", "tool", "lib"]) := by
    cbv
  obtain ⟨g, built, seen⟩ := Graph.exists_of_build_map observed
  simp only [Prod.mk.injEq] at seen
  obtain ⟨accepted, refused, left_open⟩ := seen
  obtain ⟨part, whole, succeeds, _, stopped⟩ := satisfyRoot_failFast built accepted (· == 2)
    libraryActions accepts () refusesSecond 0
  have rejected : ¬ refusesSecond.AcceptsAll 0 (satisfyRoot refusesSecond libraryActions
      (g.ensureAcyclic.2.withSatisfied (· == 2)) 0).2.executedActions := by
    intro all
    obtain ⟨_, answer⟩ := succeeds.mpr all
    rw [refused] at answer
    cases answer
  exact ⟨g, built, accepted, accepts, part, fun same => rejected (whole.mp same), left_open,
    stopped rejected⟩

end TaskRunner
