import TaskRunner.Proofs.Execution.FailFast

/-! Calls on one graph, one after the other, each with a runner of its own. A call that fails leaves
its marks behind, and the next one takes up the walk where it was broken off: together they announce
what a single call without a failure announces. Once a call succeeds, nothing is left to do. -/

namespace TaskRunner
open Move

variable {σ : Type} {g : Graph} {moves : List Move}

structure Attempt : Type 1 where
  {State : Type}
  runner : Runner State
  state : State

/-- What a call comes to, with the state in which its runner is left. -/
structure CallOutcome : Type 1 where
  attempt : Attempt
  answer : Except ActionError (List String)
  events : List Event
  left : attempt.State

namespace CallOutcome

/-- The call found nothing to do: it says so, prints nothing and leaves its runner alone. -/
structure Idle (outcome : CallOutcome) : Prop where
  answer : outcome.answer = .ok []
  events : outcome.events = []
  left : outcome.left = outcome.attempt.state

def Succeeds (outcome : CallOutcome) : Prop := ∃ finished, outcome.answer = .ok finished

def announced (outcome : CallOutcome) : List String := outcome.events.filterMap Event.finishedTask?

end CallOutcome

theorem Walk.resume_marked (acyclic : g.Acyclic) (walk : Walk g g.satisfied [g.root] moves)
    {after : Graph} {early : List Nat} (begun : early <+: exits moves)
    (shape : after.unmarked = g.unmarked)
    (satisfied : after.satisfied = Marks.adding g.satisfied early) :
    ∃ rest, Walk after after.satisfied [after.root] rest ∧
      exits moves = early ++ exits rest := by
  obtain ⟨rest, later, split⟩ := walk.resume acyclic begun
  rw [satisfied, Graph.root_of_shape shape]
  exact ⟨rest, later.of_shape shape.symm, split⟩

namespace Attempt

def on (attempt : Attempt) (store : Store) (g : Graph) : CallOutcome × Graph :=
  let ended := satisfyRoot attempt.runner store g attempt.state
  (⟨attempt, ended.1, ended.2.events.toList, ended.2.runner⟩, ended.2.graph)

theorem on_satisfied (marked : g.satisfied g.root = true) (attempt : Attempt) (store : Store) :
    (attempt.on store g).1.Idle ∧ (attempt.on store g).2 = g := by
  have ended : (Execution.begin g attempt.state).run attempt.runner store =
      (.ok (), .begin g attempt.state) := by
    rw [Execution.begin, if_pos marked, Execution.run]
    rfl
  unfold on satisfyRoot
  rw [ended, Execution.begin, if_pos marked]
  exact ⟨⟨rfl, rfl, rfl⟩, rfl⟩

/-- A call goes on with the walk and leaves the rest of it to the next. -/
theorem on_resumes (founded : g.Founded) (acyclic : g.Acyclic)
    (walk : Walk g g.satisfied [g.root] moves) (attempt : Attempt) (store : Store) :
    let (outcome, after) := attempt.on store g
    after.unmarked = g.unmarked ∧ ∃ early rest, exits moves = early ++ exits rest ∧
      outcome.announced = early.map g.name ∧ Walk after after.satisfied [after.root] rest ∧
      (outcome.Succeeds → exits rest = []) := by
  rcases satisfyRoot_performs founded acyclic walk attempt.runner store attempt.state with
    ⟨_, performed⟩ | ⟨front, id, back, e, split, answer, halted⟩
  · obtain ⟨rest, later, all⟩ := walk.resume_marked acyclic (List.prefix_refl _) performed.shape
      performed.satisfied
    exact ⟨performed.shape, _, rest, all,
      (Execution.finishedTasks_eq _).trans performed.finishedTasks, later,
      fun _ => List.self_eq_append_right.mp all⟩
  · have part : exits front <+: exits moves := List.IsPrefix.filterMap left? ⟨_, split.symm⟩
    obtain ⟨rest, later, all⟩ := walk.resume_marked acyclic part halted.shape halted.satisfied
    refine ⟨halted.shape, _, rest, all, (Execution.finishedTasks_eq _).trans halted.finishedTasks,
      later, fun ⟨_, succeeded⟩ => ?_⟩
    cases answer.symm.trans succeeded

end Attempt

def outcomes (store : Store) : Graph → List Attempt → List CallOutcome
  | _, [] => []
  | g, attempt :: attempts =>
    let (outcome, after) := attempt.on store g
    outcome :: outcomes store after attempts

def announced (outcomes : List CallOutcome) : List String := outcomes.flatMap CallOutcome.announced

theorem outcomes_satisfied (marked : g.satisfied g.root = true) (store : Store)
    (attempts : List Attempt) : ∀ outcome ∈ outcomes store g attempts, outcome.Idle := by
  induction attempts with
  | nil => exact nofun
  | cons attempt attempts ih =>
    obtain ⟨idle, same⟩ := attempt.on_satisfied marked store
    rcases called : attempt.on store g with ⟨outcome, after⟩
    rw [called] at idle same
    obtain rfl : after = g := same
    rw [outcomes, called]
    exact List.forall_mem_cons.mpr ⟨idle, ih⟩

/-- These outcomes come to a part of the list that is to be announced, and to all of it with the first
call that succeeds. -/
structure Resumed (full : List String) (all : List CallOutcome) : Prop where
  part : announced all <+: full
  complete : ∀ outcome ∈ all, outcome.Succeeds → announced all = full
  idle : all.Pairwise fun earlier later => earlier.Succeeds → later.Idle

theorem Walk.resumed (founded : g.Founded) (acyclic : g.Acyclic)
    (walk : Walk g g.satisfied [g.root] moves) (store : Store) (attempts : List Attempt) :
    Resumed ((exits moves).map g.name) (outcomes store g attempts) := by
  -- Every call leaves another graph, and with it the rest of the way.
  induction attempts generalizing g moves with
  | nil => exact ⟨List.nil_prefix, nofun, .nil⟩
  | cons attempt attempts ih =>
    obtain ⟨shape, early, rest, split, first, later, ended⟩ :=
      attempt.on_resumes founded acyclic walk store
    rw [outcomes, split, List.map_append, ← first, ← Graph.names_of_shape shape]
    have resumed := ih (founded.of_shape shape.symm) ((Graph.acyclic_of_shape shape).mpr acyclic)
      later
    refine ⟨?_, ?_, List.pairwise_cons.mpr ⟨fun other member succeeded => ?_, resumed.idle⟩⟩
    · exact (List.prefix_append_right_inj _).mpr resumed.part
    · intro outcome member succeeded
      refine congrArg ((attempt.on store g).1.announced ++ ·) ?_
      rcases List.mem_cons.mp member with rfl | member
      · have nothing := resumed.part
        rw [ended succeeded] at nothing ⊢
        exact List.prefix_nil.mp nothing
      · exact resumed.complete outcome member succeeded
    · have marked := later.marked_of_mem (List.mem_singleton_self _)
      rw [ended succeeded, Marks.adding_nil] at marked
      exact outcomes_satisfied marked store attempts other member

/-- However often satisfying a graph fails, the calls together announce what one call without a
failure announces, no task twice. -/
theorem outcomes_resumed {declared : Store} {root : String} (built : Graph.build root declared = .ok g)
    (accepted : g.ensureAcyclic.1 = .ok ()) (store : Store) {accepting : Runner σ}
    (accepts : accepting.Accepts) (start : σ) (attempts : List Attempt) :
    let fresh := g.ensureAcyclic.2
    let all := outcomes store fresh attempts
    ∃ full, (satisfyRoot accepting store fresh start).1 = .ok full ∧ Resumed full all ∧
      (announced all).Nodup := by
  intro fresh all
  have closed := Graph.closure_of_checked built
  have acyclic := Graph.acyclic_of_accepted built accepted
  have founded := closed.founded acyclic
  obtain ⟨moves, walk⟩ := Walk.exists_of_founded founded fresh.satisfied [fresh.root]
  have resumed := walk.resumed founded acyclic store attempts
  have distinct : ((exits moves).map fresh.name).Nodup :=
    (walk.nodup_exits acyclic).map_on fun _ first _ second =>
      closed.name_injective (walk.lt_size_of_exit closed first) (walk.lt_size_of_exit closed second)
  exact ⟨_, (satisfyRoot_of_accepts founded acyclic walk accepts store start).1, resumed,
    distinct.sublist resumed.part.sublist⟩

def linkedTool : Store := .ofDeclarations [⟨"tool", ["lib"]⟩, ⟨"lib", []⟩]

def linkActions : Store :=
  ((linkedTool.setActions "lib" ["cc"]).2.setActions "tool" ["ld"]).2

theorem outcomes_resumed_tool :
    ∃ g, Graph.build "tool" linkedTool = .ok g ∧ g.ensureAcyclic.1 = .ok () ∧
      acceptsAny.Accepts ∧
      let all := outcomes linkActions g.ensureAcyclic.2
        [⟨refusesSecond, 0⟩, ⟨acceptsAny, ()⟩, ⟨refusesSecond, 0⟩]
      all.map CallOutcome.answer =
        [.error ⟨"ld", .exitStatus (some 1)⟩, .ok ["tool"], .ok []] ∧
      ∃ full, (satisfyRoot acceptsAny linkActions g.ensureAcyclic.2 ()).1 = .ok full ∧
        Resumed full all ∧ (announced all).Nodup := by
  have accepts : acceptsAny.Accepts := fun _ _ => rfl
  have observed : (Graph.build "tool" linkedTool).map (fun g => (g.ensureAcyclic.1,
      (outcomes linkActions g.ensureAcyclic.2
        [⟨refusesSecond, 0⟩, ⟨acceptsAny, ()⟩, ⟨refusesSecond, 0⟩]).map CallOutcome.answer)) =
      .ok (.ok (), [.error ⟨"ld", .exitStatus (some 1)⟩, .ok ["tool"], .ok []]) := by
    cbv
  obtain ⟨g, built, seen⟩ := Graph.exists_of_build_map observed
  obtain ⟨accepted, answers⟩ := Prod.mk.inj seen
  exact ⟨g, built, accepted, accepts, answers,
    outcomes_resumed built accepted linkActions accepts () _⟩

end TaskRunner
