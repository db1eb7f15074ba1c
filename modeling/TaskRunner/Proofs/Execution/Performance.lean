import TaskRunner.Proofs.Execution.Simulation
import TaskRunner.Proofs.Execution.Walk

/-! What a run does on its way. It performs the moves of the walk one after the other, and how far it
comes is for its runner to say: the first action that is refused ends it inside the move that leaves
the task of that action. -/

namespace TaskRunner
open Move

variable {σ : Type} {g : Graph} {runner : Runner σ} {store : Store}

namespace Runner

def after (runner : Runner σ) : σ → List String → σ
  | state, [] => state
  | state, action :: actions => runner.after (runner action state).2 actions

def reports (runner : Runner σ) : σ → List String → List ActionReport
  | _, [] => []
  | state, action :: actions =>
    (runner action state).1 :: runner.reports (runner action state).2 actions

/-- None of these actions is refused. -/
def AcceptsAll (runner : Runner σ) (state : σ) (actions : List String) : Prop :=
  ∀ report ∈ runner.reports state actions, report.failure = none

/-- The last of these actions is refused with this error, and it is the first to be refused. -/
def Refuses (runner : Runner σ) (state : σ) (actions : List String) (e : ActionError) : Prop :=
  ∃ before, actions = before ++ [e.action] ∧ runner.AcceptsAll state before ∧
    (runner e.action (runner.after state before)).1.failure = some e.failure

variable {state : σ}

theorem after_append (first second : List String) :
    runner.after state (first ++ second) = runner.after (runner.after state first) second := by
  induction first generalizing state with
  | nil => rfl
  | cons action first ih => exact ih

theorem reports_append (first second : List String) :
    runner.reports state (first ++ second) =
      runner.reports state first ++ runner.reports (runner.after state first) second := by
  induction first generalizing state with
  | nil => rfl
  | cons action first ih => exact congrArg _ ih

theorem AcceptsAll.append {first second : List String} (accepted : runner.AcceptsAll state first)
    (accepted' : runner.AcceptsAll (runner.after state first) second) :
    runner.AcceptsAll state (first ++ second) := by
  intro report member
  rw [reports_append] at member
  rcases List.mem_append.mp member with early | late
  · exact accepted report early
  · exact accepted' report late

theorem AcceptsAll.refuses_append {first second : List String} {e : ActionError}
    (accepted : runner.AcceptsAll state first)
    (refused : runner.Refuses (runner.after state first) second e) :
    runner.Refuses state (first ++ second) e := by
  obtain ⟨before, rfl, accepted', failed⟩ := refused
  refine ⟨first ++ before, (List.append_assoc ..).symm, accepted.append accepted', ?_⟩
  rwa [after_append]

theorem Refuses.not_acceptsAll {actions : List String} {e : ActionError}
    (refused : runner.Refuses state actions e) : ¬ runner.AcceptsAll state actions := by
  obtain ⟨before, rfl, _, failed⟩ := refused
  intro accepted
  have last := accepted (runner e.action (runner.after state before)).1 (by simp [reports_append, reports])
  rw [failed] at last
  cases last

end Runner

namespace Event

def silent : Event → Event
  | .ran action _ => .ran action []
  | event => event

def ofActions (actions : List String) : List Event := actions.map (.ran · [])

theorem filterMap_ofActions {read : Event → Option String}
    (silent : ∀ action, read (.ran action []) = none) (actions : List String) :
    (ofActions actions).filterMap read = [] := by
  rw [List.filterMap_eq_nil_iff]
  intro event member
  obtain ⟨action, _, rfl⟩ := List.mem_map.mp member
  exact silent action

end Event

namespace Progress

def trace (p : Progress σ) : List Event := p.events.toList.map Event.silent

theorem filterMap_trace {read : Event → Option String} (kept : ∀ event, read event.silent = read event)
    (p : Progress σ) : p.trace.filterMap read = p.events.toList.filterMap read := by
  rw [trace, List.filterMap_map]
  exact List.filterMap_congr fun event _ => kept event

def given (p : Progress σ) : List String := p.events.toList.filterMap Event.action?

def ranAll (p : Progress σ) (runner : Runner σ) (actions : List String) : Progress σ :=
  actions.foldl (fun p action => p.ran runner action) p

theorem graph_ranAll (p : Progress σ) (actions : List String) :
    (p.ranAll runner actions).graph = p.graph := by
  induction actions generalizing p with
  | nil => rfl
  | cons action actions ih => exact ih _

theorem runner_ranAll (p : Progress σ) (actions : List String) :
    (p.ranAll runner actions).runner = runner.after p.runner actions := by
  induction actions generalizing p with
  | nil => rfl
  | cons action actions ih => exact ih _

theorem trace_ranAll (p : Progress σ) (actions : List String) :
    (p.ranAll runner actions).trace = p.trace ++ Event.ofActions actions := by
  induction actions generalizing p with
  | nil => exact (List.append_nil _).symm
  | cons action actions ih =>
    refine (ih _).trans ?_
    simp [trace, ran, Event.silent, Event.ofActions]

theorem given_ranAll (p : Progress σ) (actions : List String) :
    (p.ranAll runner actions).given = p.given ++ actions := by
  induction actions generalizing p with
  | nil => exact (List.append_nil _).symm
  | cons action actions ih =>
    refine (ih _).trans ?_
    simp [given, ran, Event.action?]

theorem trace_start (p : Progress σ) (id : Nat) :
    (p.start id).trace = p.trace ++ [.started (p.graph.name id)] := by
  simp [trace, start, Event.silent]

theorem given_start (p : Progress σ) (id : Nat) : (p.start id).given = p.given := by
  simp [given, start, Event.action?]

theorem trace_finish (p : Progress σ) (id : Nat) :
    (p.finish id).trace = p.trace ++ [.finished (p.graph.name id)] := by
  simp [trace, finish, Event.silent]

theorem given_finish (p : Progress σ) (id : Nat) : (p.finish id).given = p.given := by
  simp [given, finish, Event.action?]

end Progress

namespace Procedure

theorem exec_actions_cases (runner : Runner σ) (actions : List String) (p : Progress σ) :
    (runner.AcceptsAll p.runner actions ∧
      (actions.forM (act runner)).exec p = (.ok (), p.ranAll runner actions)) ∨
    ∃ before later e, actions = before ++ e.action :: later ∧
      runner.Refuses p.runner (before ++ [e.action]) e ∧
      (actions.forM (act runner)).exec p = (.error e, p.ranAll runner (before ++ [e.action])) := by
  induction actions generalizing p with
  | nil => exact .inl ⟨nofun, rfl⟩
  | cons action actions ih =>
    rw [exec_forM_cons, exec_act]
    cases failed : (runner action p.runner).1.failure with
    | some failure => exact .inr ⟨[], actions, ⟨action, failure⟩, rfl, ⟨[], rfl, nofun, failed⟩, rfl⟩
    | none =>
      have accepted : runner.AcceptsAll p.runner [action] := by
        intro report member
        rw [List.mem_singleton.mp member]
        exact failed
      rcases ih (p.ran runner action) with ⟨accepted', ended⟩ | ⟨before, later, e, rfl, refused, ended⟩
      · exact .inl ⟨accepted.append accepted', ended⟩
      · exact .inr ⟨action :: before, later, e, rfl, accepted.refuses_append refused, ended⟩

theorem exec_complete_cases (runner : Runner σ) (store : Store) (id : Nat) (p : Progress σ) :
    let actions := store.actions (p.graph.name id)
    (runner.AcceptsAll p.runner actions ∧
      (complete runner store id).exec p = (.ok (), (p.ranAll runner actions).finish id)) ∨
    ∃ before later e, actions = before ++ e.action :: later ∧
      runner.Refuses p.runner (before ++ [e.action]) e ∧
      (complete runner store id).exec p = (.error e, p.ranAll runner (before ++ [e.action])) := by
  intro actions
  have parts : (complete runner store id).exec p =
      andThen (fun _ => modify (·.finish id)) ((actions.forM (act runner)).exec p) := by
    rw [complete, exec_get_bind, exec_bind]
  rw [parts]
  rcases exec_actions_cases runner actions p with
    ⟨accepted, ended⟩ | ⟨before, later, e, split, refused, ended⟩
  · exact .inl ⟨accepted, by rw [ended]; rfl⟩
  · exact .inr ⟨before, later, e, split, refused, by rw [ended]; rfl⟩

theorem satisfied_of_complete {id : Nat} {p q : Progress σ}
    (ended : (complete runner store id).exec p = (.ok (), q)) :
    q.graph.satisfied = Marks.adding p.graph.satisfied [id] := by
  rcases exec_complete_cases runner store id p with ⟨_, ended'⟩ | ⟨_, _, _, _, _, ended'⟩
  all_goals cases ended.symm.trans ended'
  funext other
  rw [Bool.eq_iff_iff, Marks.adding_eq_true]
  show ((p.ranAll runner _).graph.setSatisfied id true).satisfied other = true ↔ _
  rw [Graph.satisfied_setSatisfied_true, Progress.graph_ranAll, List.mem_singleton, or_comm,
    eq_comm (a := id)]

def perform (runner : Runner σ) (store : Store) : Move → Procedure σ Unit
  | .enter id => modify (·.start id)
  | .leave id => complete runner store id

theorem satisfied_of_perform {move : Move} {p q : Progress σ}
    (ended : (perform runner store move).exec p = (.ok (), q)) :
    q.graph.satisfied = Marks.adding p.graph.satisfied (exits [move]) := by
  cases move with
  | enter id =>
    cases ended
    exact Marks.adding_nil.symm
  | leave id => exact satisfied_of_complete ended

theorem satisfied_of_performs {moves : List Move} {p q : Progress σ}
    (ended : (moves.forM (perform runner store)).exec p = (.ok (), q)) :
    q.graph.satisfied = Marks.adding p.graph.satisfied (exits moves) := by
  induction moves generalizing p with
  | nil =>
    cases ended
    exact Marks.adding_nil.symm
  | cons move moves ih =>
    rw [exec_forM_cons] at ended
    obtain ⟨_, middle, first, later⟩ := andThen_ok ended
    rw [ih later, satisfied_of_perform first, ← Marks.adding_append, ← exits_append]
    rfl

end Procedure

theorem Walk.exec {marks : Marks} {ids : List Nat} {moves : List Move} (walk : Walk g marks ids moves)
    (founded : g.Founded) (runner : Runner σ) (store : Store) {p : Progress σ}
    (start : p.graph.satisfied = marks) :
    (ids.forM (Procedure.visit founded runner store)).exec p =
      (moves.forM (Procedure.perform runner store)).exec p := by
  open Procedure in
  induction walk generalizing p with
  | done => rfl
  | skip marked _ ih =>
    rw [exec_forM_cons, exec_visit, start, if_pos marked]
    exact ih start
  | @visit marks id ids below moves unmarked _ _ below_ih later_ih =>
    have entered : ((Move.enter id :: below ++ .leave id :: moves).forM
        (perform runner store)).exec p =
        (below.forM (perform runner store) >>= fun _ =>
          (Move.leave id :: moves).forM (perform runner store)).exec (p.start id) := by
      rw [exec_bind, ← exec_forM_append]
      rfl
    have visited := below_ih (p := p.start id) start
    rw [entered, exec_forM_cons, exec_visit, start, unmarked, if_neg Bool.false_ne_true,
      ← exec_bind, bind_assoc]
    apply exec_bind_congr visited
    intro _ middle ended
    apply exec_bind_congr rfl
    intro _ last completed
    apply later_ih
    rw [satisfied_of_complete completed,
      satisfied_of_performs (visited.symm.trans ended), Marks.adding_append]
    exact congrArg (Marks.adding · [id]) (congrArg (Marks.adding · (exits below)) start)

def Move.trace (g : Graph) (store : Store) : Move → List Event
  | .enter id => [.started (g.name id)]
  | .leave id => Event.ofActions (store.actions (g.name id)) ++ [.finished (g.name id)]

/-- The progress after exactly these moves, begun at the marks of a graph. -/
structure Performed (g : Graph) (store : Store) (runner : Runner σ) (state : σ) (moves : List Move)
    (p : Progress σ) : Prop where
  shape : p.graph.unmarked = g.unmarked
  satisfied : p.graph.satisfied = Marks.adding g.satisfied (exits moves)
  trace : p.trace = moves.flatMap (Move.trace g store)
  runner_eq : p.runner = runner.after state p.given
  accepted : runner.AcceptsAll state p.given

/-- The progress after these moves, and after the actions of one more task up to the first that was
refused. -/
structure Halted (g : Graph) (store : Store) (runner : Runner σ) (state : σ) (moves : List Move)
    (id : Nat) (e : ActionError) (p : Progress σ) : Prop where
  shape : p.graph.unmarked = g.unmarked
  satisfied : p.graph.satisfied = Marks.adding g.satisfied (exits moves)
  trace : ∃ before later, store.actions (g.name id) = before ++ e.action :: later ∧
    p.trace = moves.flatMap (Move.trace g store) ++ Event.ofActions (before ++ [e.action])
  refused : runner.Refuses state p.given e

def Move.notice (g : Graph) : Move → Event
  | .enter id => .started (g.name id)
  | .leave id => .finished (g.name id)

theorem filterMap_trace {read : Event → Option String} (silent : ∀ action, read (.ran action []) = none)
    (g : Graph) (store : Store) (moves : List Move) (actions : List String) :
    (moves.flatMap (Move.trace g store) ++ Event.ofActions actions).filterMap read =
      moves.filterMap fun move => read (move.notice g) := by
  have single (event : Event) : [event].filterMap read = (read event).toList := by
    rw [List.filterMap_cons, List.filterMap_nil]
    cases read event <;> rfl
  have one (move : Move) : (move.trace g store).filterMap read = (read (move.notice g)).toList := by
    cases move with
    | enter id => exact single _
    | leave id =>
      rw [Move.trace, List.filterMap_append, Event.filterMap_ofActions silent]
      exact single _
  rw [List.filterMap_append, Event.filterMap_ofActions silent, List.append_nil, List.filterMap_flatMap,
    List.filterMap_eq_flatMap_toList]
  exact List.flatMap_congr fun move _ => one move

theorem filterMap_finishedTask?_trace (g : Graph) (store : Store) (moves : List Move)
    (actions : List String) :
    (moves.flatMap (Move.trace g store) ++ Event.ofActions actions).filterMap Event.finishedTask? =
      (exits moves).map g.name := by
  rw [filterMap_trace fun _ => rfl, exits, List.map_filterMap]
  apply List.filterMap_congr
  intro move _
  cases move <;> rfl

theorem filterMap_action?_trace (g : Graph) (store : Store) (moves : List Move) :
    (moves.flatMap (Move.trace g store)).filterMap Event.action? =
      (exits moves).flatMap fun id => store.actions (g.name id) := by
  induction moves with
  | nil => rfl
  | cons move moves ih =>
    rw [List.flatMap_cons, List.filterMap_append, ih]
    cases move with
    | enter id => rfl
    | leave id =>
      rw [Move.trace, List.filterMap_append, Event.ofActions, List.filterMap_map, exits_leave,
        List.flatMap_cons]
      simp [Event.action?, Function.comp_def]

namespace Performed

variable {state : σ} {moves : List Move} {p : Progress σ}

theorem initial (g : Graph) (store : Store) (runner : Runner σ) (state : σ) :
    Performed g store runner state [] (.initial g state) where
  shape := rfl
  satisfied := Marks.adding_nil.symm
  trace := rfl
  runner_eq := rfl
  accepted := nofun

theorem enter (performed : Performed g store runner state moves p) (id : Nat) :
    Performed g store runner state (moves ++ [.enter id]) (p.start id) := by
  obtain ⟨shape, satisfied, trace, runner_eq, accepted⟩ := performed
  refine ⟨shape, ?_, ?_, ?_, ?_⟩
  · rw [exits_append, exits_enter, exits_nil, List.append_nil]
    exact satisfied
  · rw [Progress.trace_start, trace, List.flatMap_append, Graph.name_of_shape shape]
    rfl
  · rw [Progress.given_start]
    exact runner_eq
  · rwa [Progress.given_start]

theorem leave (performed : Performed g store runner state moves p) (id : Nat) :
    (∃ q, (Procedure.complete runner store id).exec p = (.ok (), q) ∧
      Performed g store runner state (moves ++ [.leave id]) q) ∨
    ∃ e q, (Procedure.complete runner store id).exec p = (.error e, q) ∧
      Halted g store runner state moves id e q := by
  obtain ⟨shape, satisfied, trace, runner_eq, accepted⟩ := performed
  have name := Graph.name_of_shape shape id
  rcases Procedure.exec_complete_cases runner store id p with
    ⟨accepted', ended⟩ | ⟨before, later, e, split, refused, ended⟩
  · refine .inl ⟨_, ended, ?_, ?_, ?_, ?_, ?_⟩
    · exact (Graph.unmarked_setSatisfied ..).trans (by rw [Progress.graph_ranAll, shape])
    · rw [Procedure.satisfied_of_complete ended, satisfied, ← Marks.adding_append, exits_append]
      rfl
    · rw [Progress.trace_finish, Progress.trace_ranAll, Progress.graph_ranAll, trace, name,
        List.flatMap_append, List.flatMap_singleton, List.append_assoc]
      rfl
    · rw [Progress.given_finish, Progress.given_ranAll, Runner.after_append, ← runner_eq]
      exact Progress.runner_ranAll ..
    · rw [Progress.given_finish, Progress.given_ranAll]
      exact accepted.append (runner_eq ▸ accepted')
  · refine .inr ⟨e, _, ended, ?_, ?_, ⟨before, later, name ▸ split, ?_⟩, ?_⟩
    · rw [Progress.graph_ranAll, shape]
    · rw [Progress.graph_ranAll, satisfied]
    · rw [Progress.trace_ranAll, trace]
    · rw [Progress.given_ranAll]
      exact accepted.refuses_append (runner_eq ▸ refused)

theorem step (performed : Performed g store runner state moves p) (move : Move) :
    (∃ q, (Procedure.perform runner store move).exec p = (.ok (), q) ∧
      Performed g store runner state (moves ++ [move]) q) ∨
    ∃ id e q, move = .leave id ∧ (Procedure.perform runner store move).exec p = (.error e, q) ∧
      Halted g store runner state moves id e q := by
  cases move with
  | enter id => exact .inl ⟨_, rfl, performed.enter id⟩
  | leave id =>
    rcases performed.leave id with done | ⟨e, q, ended, halted⟩
    · exact .inl done
    · exact .inr ⟨id, e, q, rfl, ended, halted⟩

/-- The next moves are all performed, or the run halts inside one of them. -/
theorem run (performed : Performed g store runner state moves p) (next : List Move) :
    (∃ q, (next.forM (Procedure.perform runner store)).exec p = (.ok (), q) ∧
      Performed g store runner state (moves ++ next) q) ∨
    ∃ front id back e q, next = front ++ .leave id :: back ∧
      (next.forM (Procedure.perform runner store)).exec p = (.error e, q) ∧
      Halted g store runner state (moves ++ front) id e q := by
  induction next generalizing moves p with
  | nil => exact .inl ⟨p, rfl, (List.append_nil moves).symm ▸ performed⟩
  | cons move next ih =>
    rw [Procedure.exec_forM_cons]
    rcases performed.step move with ⟨middle, ended, performed'⟩ | ⟨id, e, q, rfl, ended, halted⟩
    · have split : moves ++ [move] ++ next = moves ++ move :: next := by simp
      rw [ended]
      rcases ih performed' with ⟨q, later, all⟩ | ⟨front, id, back, e, q, rfl, later, halted⟩
      · exact .inl ⟨q, later, split ▸ all⟩
      · rw [List.append_assoc] at halted
        exact .inr ⟨move :: front, id, back, e, q, rfl, later, halted⟩
    · rw [ended]
      refine .inr ⟨[], id, next, e, q, rfl, rfl, ?_⟩
      rwa [List.append_nil]

theorem finishedTasks (performed : Performed g store runner state moves p) :
    p.trace.filterMap Event.finishedTask? = (exits moves).map g.name := by
  have finished := filterMap_finishedTask?_trace g store moves []
  rwa [show Event.ofActions [] = [] from rfl, List.append_nil, ← performed.trace] at finished

end Performed

theorem Halted.finishedTasks {state : σ} {moves : List Move} {id : Nat} {e : ActionError}
    {p : Progress σ} (halted : Halted g store runner state moves id e p) :
    p.trace.filterMap Event.finishedTask? = (exits moves).map g.name := by
  obtain ⟨before, _, _, trace⟩ := halted.trace
  rw [trace, filterMap_finishedTask?_trace]

namespace Execution

def trace (x : Execution σ) : List Event := x.progress.trace

theorem finishedTasks_eq (x : Execution σ) :
    x.finishedTasks = x.trace.filterMap Event.finishedTask? :=
  (x.progress.filterMap_trace fun event => by cases event <;> rfl).symm

theorem executedActions_eq (x : Execution σ) :
    x.executedActions = x.trace.filterMap Event.action? :=
  (x.progress.filterMap_trace fun event => by cases event <;> rfl).symm

end Execution

/-- Satisfying the root of a graph without loops performs the walk to its end, or up to the task of
the first action that is refused. -/
theorem satisfyRoot_performs (founded : g.Founded) (acyclic : g.Acyclic) {moves : List Move}
    (walk : Walk g g.satisfied [g.root] moves) (runner : Runner σ) (store : Store) (state : σ) :
    let ended := satisfyRoot runner store g state
    (ended.1 = .ok ((exits moves).map g.name) ∧
      Performed g store runner state moves ended.2.progress) ∨
    ∃ front id back e, moves = front ++ .leave id :: back ∧ ended.1 = .error e ∧
      Halted g store runner state front id e ended.2.progress := by
  intro ended
  have visited := exec_visit_root acyclic founded runner store state
  rw [← Procedure.exec_forM_singleton, walk.exec founded runner store rfl] at visited
  have ended_eq : ended = _ := satisfyRoot_eq_run runner store g state
  rcases (Performed.initial g store runner state).run moves with
    ⟨q, all, performed⟩ | ⟨front, id, back, e, q, split, broken, halted⟩
  · obtain ⟨answered, rfl⟩ := Prod.mk.inj (visited.symm.trans all)
    rw [ended_eq]
    refine .inl ⟨?_, performed⟩
    dsimp only
    rw [answered, Execution.finishedTasks_eq]
    exact congrArg Except.ok performed.finishedTasks
  · obtain ⟨answered, rfl⟩ := Prod.mk.inj (visited.symm.trans broken)
    rw [ended_eq]
    refine .inr ⟨front, id, back, e, split, ?_, halted⟩
    dsimp only
    rw [answered]
    rfl

end TaskRunner
