import Mathlib.Data.List.Permutation
import TaskRunner.Proofs.Execution.Procedure
import TaskRunner.Proofs.Graph.Acyclicity

/-! Stack and recursion come to the same. A frame stands for a visit that is under way: the children
that are left, and then the task itself. What an execution keeps besides is which tasks it began,
and on a graph without loops that refuses no task: one that was begun is satisfied, or it waits on
the stack for everything that is begun after it. So the loop ends also if it keeps no such
account. -/

namespace TaskRunner
open TaskRunner.Graph (Frame Edge Acyclic)
open Relation

variable {σ : Type}

namespace Execution

def progress (x : Execution σ) : Progress σ := ⟨x.graph, x.events, x.finishedTasks, x.runner⟩

theorem progress_start (x : Execution σ) (id : Nat) :
    (x.start id).progress = x.progress.start id := by
  unfold progress Progress.start start record finishedTasks
  simp only [Array.toList_push, List.filterMap_append]
  simp [Event.finishedTask?]

theorem progress_finish (x : Execution σ) (id : Nat) (below : List Frame) :
    (x.finish id below).progress = x.progress.finish id := by
  unfold progress Progress.finish finish record finishedTasks
  simp only [Array.toList_push, List.filterMap_append]
  simp [Event.finishedTask?]

theorem progress_runAction (runner : Runner σ) (x : Execution σ) (action : String) :
    (x.runAction runner action).2.progress = x.progress.ran runner action := by
  unfold progress Progress.ran runAction finishedTasks
  simp only [Array.toList_push, List.filterMap_append]
  simp [Event.finishedTask?]

theorem frame_runActions (runner : Runner σ) (x : Execution σ) (actions : List String) :
    ∃ events state, (x.runActions runner actions).2 = { x with events, runner := state } := by
  induction actions generalizing x with
  | nil => exact ⟨x.events, x.runner, rfl⟩
  | cons action actions ih =>
    unfold runActions
    rcases answered : x.runAction runner action with ⟨_ | failure, after⟩
    all_goals obtain rfl : (x.runAction runner action).2 = after := congrArg Prod.snd answered
    · exact ih _
    · exact ⟨_, _, rfl⟩

def answerOf : Option ActionError → Except ActionError Unit
  | some e => .error e
  | none => .ok ()

theorem exec_actions (runner : Runner σ) (x : Execution σ) (actions : List String) :
    (actions.forM (Procedure.act runner)).exec x.progress =
      (answerOf (x.runActions runner actions).1, (x.runActions runner actions).2.progress) := by
  induction actions generalizing x with
  | nil => rfl
  | cons action actions ih =>
    show (Procedure.act runner action >>= fun _ =>
      actions.forM (Procedure.act runner)).exec x.progress = _
    rw [Procedure.exec_bind, Procedure.exec_act, ← progress_runAction]
    rcases answered : x.runAction runner action with ⟨_ | failure, after⟩
    all_goals
      have failed :
        (runner action x.progress.runner).1.failure = (x.runAction runner action).1 := rfl
      unfold runActions
      rw [failed, answered]
    · exact ih after
    · rfl

theorem exec_complete (runner : Runner σ) (store : Store) (x : Execution σ) (id : Nat) :
    (Procedure.complete runner store id).exec x.progress =
      match x.runActions runner (store.actions (x.graph.name id)) with
      | (some e, after) => (.error e, after.progress)
      | (none, after) => (.ok (), after.progress.finish id) := by
  rw [Procedure.complete, Procedure.exec_get_bind, Procedure.exec_bind, exec_actions]
  show Procedure.andThen _ (answerOf (x.runActions runner (store.actions (x.graph.name id))).1,
    (x.runActions runner (store.actions (x.graph.name id))).2.progress) = _
  rcases x.runActions runner (store.actions (x.graph.name id)) with ⟨_ | e, after⟩
  · rfl
  · rfl

variable {x after : Execution σ} {runner : Runner σ} {store : Store}

theorem step_cases (stepped : x.step runner store = (none, after)) :
    (∃ node child rest below, x.stack = ⟨node, child :: rest⟩ :: below ∧
      x.mayStart child = true ∧ after = (x.withStack (⟨node, rest⟩ :: below)).start child) ∨
    (∃ node child rest below, x.stack = ⟨node, child :: rest⟩ :: below ∧
      x.mayStart child = false ∧ after = x.withStack (⟨node, rest⟩ :: below)) ∨
    ∃ node below ran, x.stack = ⟨node, []⟩ :: below ∧
      x.runActions runner (store.actions (x.graph.name node)) = (none, ran) ∧
      after = ran.finish node below := by
  unfold step at stepped
  split at stepped
  next => cases stepped
  next node child rest below stacked =>
    split at stepped
    next startable =>
      cases stepped
      exact .inl ⟨node, child, rest, below, stacked, startable, rfl⟩
    next refused =>
      cases stepped
      exact .inr (.inl ⟨node, child, rest, below, stacked, Bool.not_eq_true _ ▸ refused, rfl⟩)
  next node below stacked =>
    split at stepped
    next => cases stepped
    next ran answered =>
      cases stepped
      exact .inr (.inr ⟨node, below, ran, stacked, answered, rfl⟩)

theorem step_answer {answer : Except ActionError Unit}
    (stepped : x.step runner store = (some answer, after)) :
    (x.stack = [] ∧ answer = .ok () ∧ after = x) ∨
    ∃ node below e, x.stack = ⟨node, []⟩ :: below ∧
      x.runActions runner (store.actions (x.graph.name node)) = (some e, after) ∧
      answer = .error e := by
  unfold step at stepped
  split at stepped
  next empty =>
    cases stepped
    exact .inl ⟨empty, rfl, rfl⟩
  next => split at stepped <;> cases stepped
  next node below stacked =>
    split at stepped
    next e _ answered =>
      cases stepped
      exact .inr ⟨node, below, e, stacked, answered, rfl⟩
    next => cases stepped

/-- What the steps of an execution keep on a graph of this shape. -/
structure Sound (g : Graph) (x : Execution σ) : Prop where
  shape : x.graph.unmarked = g.unmarked
  size : x.begun.size = g.size
  edges : ∀ frame ∈ x.stack, ∀ child ∈ frame.rest, g.Edge frame.node child
  chain : (x.stack.map (·.node)).Pairwise fun upper lower => TransGen g.Edge lower upper
  begun : ∀ id, x.begun[id]? = some true →
    x.graph.satisfied id = true ∨ id ∈ x.stack.map (·.node)

variable {g : Graph} {node child : Nat} {rest : List Nat} {below : List Frame}

theorem Sound.edge (sound : x.Sound g) (stacked : x.stack = ⟨node, child :: rest⟩ :: below) :
    g.Edge node child :=
  sound.edges ⟨node, child :: rest⟩ (stacked ▸ List.mem_cons_self) child List.mem_cons_self

/-- No task is refused that is not satisfied: on the stack it would close a loop. -/
theorem Sound.mayStart (sound : x.Sound g) (acyclic : g.Acyclic)
    (stacked : x.stack = ⟨node, child :: rest⟩ :: below) :
    x.mayStart child = !x.graph.satisfied child := by
  have edge := sound.edge stacked
  unfold Execution.mayStart
  cases unmarked : x.graph.satisfied child with
  | true => rfl
  | false =>
    have inside : child < x.begun.size := by
      rw [sound.size, ← Graph.size_of_shape sound.shape]
      exact Graph.lt_size_of_satisfied unmarked
    have waits : child ∉ x.stack.map (·.node) := by
      have chain := sound.chain
      rw [stacked, List.map_cons] at chain ⊢
      intro member
      rcases List.mem_cons.mp member with same | lower
      · exact acyclic child (.single (same ▸ edge))
      · exact acyclic child ((List.rel_of_pairwise_cons chain lower).tail edge)
    have fresh : x.begun[child]? = some false := by
      rw [Array.getElem?_eq_getElem inside]
      cases begun : x.begun[child] with
      | false => rfl
      | true =>
        have marked := Array.getElem?_eq_some_iff.mpr ⟨inside, begun⟩
        rcases sound.begun child marked with done | waiting
        · exact absurd done (by simp [unmarked])
        · exact absurd waiting waits
    simp only [isBegun, fresh]
    rfl

theorem Sound.drop (sound : x.Sound g) (stacked : x.stack = ⟨node, child :: rest⟩ :: below) :
    (x.withStack (⟨node, rest⟩ :: below)).Sound g := by
  obtain ⟨shape, size, edges, chain, begun⟩ := sound
  rw [stacked] at edges chain begun
  refine ⟨shape, size, fun frame member => ?_, chain, begun⟩
  rcases List.mem_cons.mp member with rfl | lower
  · exact fun other member' =>
      edges ⟨node, child :: rest⟩ List.mem_cons_self other (List.mem_cons_of_mem _ member')
  · exact edges frame (List.mem_cons_of_mem _ lower)

theorem Sound.start {id : Nat} (sound : x.Sound g)
    (above : ∀ lower ∈ x.stack.map (·.node), TransGen g.Edge lower id) :
    (x.start id).Sound g := by
  obtain ⟨shape, size, edges, chain, begun⟩ := sound
  refine ⟨shape, ?_, fun frame member => ?_, .cons above chain, fun other begun' => ?_⟩
  · exact Array.size_modify.trans size
  · rcases List.mem_cons.mp member with rfl | lower
    · intro other member'
      rwa [Edge, ← Graph.children_of_shape shape]
    · exact edges frame lower
  · by_cases same : id = other
    · exact .inr (same ▸ List.mem_cons_self)
    · have before : x.begun[other]? = some true := by
        simpa [Execution.start, record, Array.getElem?_modify, same] using begun'
      exact (begun other before).imp_right (List.mem_cons_of_mem _)

theorem Sound.finish (sound : x.Sound g) (stacked : x.stack = ⟨node, []⟩ :: below) :
    (x.finish node below).Sound g := by
  obtain ⟨shape, size, edges, chain, begun⟩ := sound
  rw [stacked] at edges chain begun
  refine ⟨?_, size, fun frame member => edges frame (List.mem_cons_of_mem _ member),
    (List.pairwise_cons.mp chain).2, fun other begun' => ?_⟩
  · exact (Graph.unmarked_setSatisfied ..).trans shape
  · show (x.graph.setSatisfied node true).satisfied other = true ∨ _
    rw [Graph.satisfied_setSatisfied_true]
    rcases begun other begun' with done | waiting
    · exact .inl (.inr done)
    · rcases List.mem_cons.mp waiting with top | lower
      · exact .inl (.inl top.symm)
      · exact .inr lower

theorem Sound.step (sound : x.Sound g) (stepped : x.step runner store = (none, after)) :
    after.Sound g := by
  rcases step_cases stepped with ⟨node, child, rest, below, stacked, _, rfl⟩ |
    ⟨node, child, rest, below, stacked, _, rfl⟩ | ⟨node, below, ran, stacked, answered, rfl⟩
  · have dropped := sound.drop stacked
    have edge := TransGen.single (sound.edge stacked)
    apply dropped.start
    intro lower member
    rcases List.mem_cons.mp member with rfl | lower'
    · exact edge
    · exact (List.rel_of_pairwise_cons dropped.chain lower').trans edge
  · exact sound.drop stacked
  · obtain ⟨events, state, frame⟩ :=
      frame_runActions runner x (store.actions (x.graph.name node))
    rw [answered] at frame
    have only : ran = { x with events, runner := state } := frame
    have kept : ran.Sound g := by
      rw [only]
      exact ⟨sound.shape, sound.size, sound.edges, sound.chain, sound.begun⟩
    apply kept.finish
    rw [only]
    exact stacked

def resume (founded : g.Founded) (runner : Runner σ) (store : Store) :
    List Frame → Procedure σ Unit
  | [] => pure ()
  | ⟨node, rest⟩ :: below => do
    rest.forM (Procedure.visit founded runner store)
    Procedure.complete runner store node
    resume founded runner store below

theorem exec_resume_cons (founded : g.Founded) (p : Progress σ) :
    (resume founded runner store (⟨node, child :: rest⟩ :: below)).exec p =
      Procedure.andThen (fun _ => resume founded runner store (⟨node, rest⟩ :: below))
        ((Procedure.visit founded runner store child).exec p) := by
  rw [← Procedure.exec_bind]
  show ((Procedure.visit founded runner store child >>= fun _ =>
    rest.forM (Procedure.visit founded runner store)) >>= _).exec p = _
  rw [bind_assoc]
  rfl

theorem exec_resume_nil (founded : g.Founded) (p : Progress σ) :
    (resume founded runner store (⟨node, []⟩ :: below)).exec p =
      Procedure.andThen (fun _ => resume founded runner store below)
        ((Procedure.complete runner store node).exec p) := by
  rw [← Procedure.exec_bind]
  rfl

theorem Sound.exec_resume_step (sound : x.Sound g) (acyclic : g.Acyclic) (founded : g.Founded)
    (stepped : x.step runner store = (none, after)) :
    (resume founded runner store x.stack).exec x.progress =
      (resume founded runner store after.stack).exec after.progress := by
  rcases step_cases stepped with ⟨node, child, rest, below, stacked, startable, rfl⟩ |
    ⟨node, child, rest, below, stacked, refused, rfl⟩ | ⟨node, below, ran, stacked, answered, rfl⟩
  · have left : ¬ x.progress.graph.satisfied child = true := by
      rw [sound.mayStart acyclic stacked, Bool.not_eq_true'] at startable
      simp [progress, startable]
    rw [progress_start, stacked, exec_resume_cons, Procedure.exec_visit, if_neg left,
      ← Procedure.exec_bind, bind_assoc, ← Graph.children_of_shape sound.shape]
    rfl
  · have satisfied : x.progress.graph.satisfied child = true := by
      rwa [sound.mayStart acyclic stacked, Bool.not_eq_false'] at refused
    rw [stacked, exec_resume_cons, Procedure.exec_visit, if_pos satisfied]
    rfl
  · rw [stacked, progress_finish, exec_resume_nil, exec_complete, answered]
    rfl

theorem exec_resume_answer (founded : g.Founded) {answer : Except ActionError Unit}
    (stepped : x.step runner store = (some answer, after)) :
    (resume founded runner store x.stack).exec x.progress = (answer, after.progress) := by
  rcases step_answer stepped with ⟨empty, rfl, rfl⟩ | ⟨node, below, e, stacked, answered, rfl⟩
  · rw [empty]
    rfl
  · rw [stacked, exec_resume_nil, exec_complete, answered]
    rfl

theorem Sound.exec_resume (sound : x.Sound g) (acyclic : g.Acyclic) (founded : g.Founded) :
    (resume founded runner store x.stack).exec x.progress =
      ((x.run runner store).1, (x.run runner store).2.progress) := by
  fun_induction Execution.run runner store x with
  | case1 x after stepped ih =>
    exact (sound.exec_resume_step acyclic founded stepped).trans (ih (sound.step stepped))
  | case2 x answer after stepped => exact exec_resume_answer founded stepped

/-- The step of a loop that keeps no account of what it began. -/
def plainStep (runner : Runner σ) (store : Store) (x : Execution σ) :
    Option (Except ActionError Unit) × Execution σ :=
  match x.stack with
  | ⟨node, child :: rest⟩ :: below =>
    if x.graph.satisfied child then (none, x.withStack (⟨node, rest⟩ :: below))
    else (none, (x.withStack (⟨node, rest⟩ :: below)).start child)
  | _ => x.step runner store

/-- The plain loop comes to an answer. -/
inductive Ends (runner : Runner σ) (store : Store) :
    Execution σ → Except ActionError Unit → Execution σ → Prop
  | answer {x after : Execution σ} {answer : Except ActionError Unit}
      (stepped : x.plainStep runner store = (some answer, after)) : Ends runner store x answer after
  | step {x next after : Execution σ} {answer : Except ActionError Unit}
      (stepped : x.plainStep runner store = (none, next))
      (later : Ends runner store next answer after) : Ends runner store x answer after

theorem Sound.plainStep_eq (sound : x.Sound g) (acyclic : g.Acyclic) (runner : Runner σ)
    (store : Store) : x.plainStep runner store = x.step runner store := by
  unfold plainStep
  split
  next node child rest below stacked =>
    rw [Execution.step]
    simp only [stacked, sound.mayStart acyclic stacked]
    cases x.graph.satisfied child <;> rfl
  next => rfl

theorem Sound.ends (sound : x.Sound g) (acyclic : g.Acyclic) (runner : Runner σ) (store : Store) :
    Ends runner store x (x.run runner store).1 (x.run runner store).2 := by
  fun_induction Execution.run runner store x with
  | case1 x after stepped ih =>
    exact .step ((sound.plainStep_eq acyclic runner store).trans stepped)
      (ih (sound.step stepped))
  | case2 x answer after stepped =>
    exact .answer ((sound.plainStep_eq acyclic runner store).trans stepped)

theorem sound_begin (g : Graph) (state : σ) : (begin g state).Sound g := by
  have idle : Execution.Sound g ⟨g, .replicate g.size false, [], #[], state⟩ :=
    { shape := rfl
      size := Array.size_replicate
      edges := fun _ member => nomatch member
      chain := .nil
      begun := fun id begun => by simp [Array.getElem?_replicate] at begun }
  unfold begin
  split
  · exact idle
  · exact idle.start fun _ member => nomatch member

end Execution

theorem exec_visit_root {g : Graph} (acyclic : g.Acyclic) (founded : g.Founded)
    (runner : Runner σ) (store : Store) (state : σ) :
    (Procedure.visit founded runner store g.root).exec (.initial g state) =
      (((Execution.begin g state).run runner store).1,
        ((Execution.begin g state).run runner store).2.progress) := by
  rw [← (Execution.sound_begin g state).exec_resume acyclic founded, Procedure.exec_visit]
  unfold Execution.begin
  by_cases done : g.satisfied g.root = true
  · rw [if_pos done]
    exact if_pos done
  · rw [if_neg done, Execution.progress_start]
    refine (if_neg done).trans ?_
    show _ = ((g.children g.root).forM (Procedure.visit founded runner store) >>= fun _ =>
      Procedure.complete runner store g.root >>= fun _ => pure ()).exec _
    simp only [bind_pure_unit]
    rfl

theorem satisfyRoot_eq_run (runner : Runner σ) (store : Store) (g : Graph) (state : σ) :
    satisfyRoot runner store g state =
      let ended := (Execution.begin g state).run runner store
      (ended.1.map fun _ => ended.2.finishedTasks, ended.2) := by
  unfold satisfyRoot
  split
  next answered =>
    rw [answered]
    rfl
  next answered =>
    rw [answered]
    rfl

/-- Whatever tasks are marked already, satisfying the root of a graph that was found to be without
loops does what visiting the root does. The plain loop comes to the same end. -/
theorem satisfyRoot_eq_visit {declared : Store} {root : String} {g : Graph}
    (built : Graph.build root declared = .ok g) (accepted : g.ensureAcyclic.1 = .ok ())
    (marks : Nat → Bool) (runner : Runner σ) (store : Store) (state : σ) :
    let marked := g.ensureAcyclic.2.withSatisfied marks
    ∃ (founded : marked.Founded) (answer : Except ActionError Unit) (done : Progress σ),
      (Procedure.visit founded runner store marked.root).exec (.initial marked state) =
        (answer, done) ∧
      (satisfyRoot runner store marked state).1 = answer.map (fun _ => done.finished) ∧
      (satisfyRoot runner store marked state).2.progress = done ∧
      Execution.Ends runner store (.begin marked state) answer
        (satisfyRoot runner store marked state).2 := by
  intro marked
  have shape : marked.unmarked = g.ensureAcyclic.2.unmarked := Graph.unmarked_withSatisfied ..
  have closed := (Graph.closure_of_checked built).of_shape shape.symm
  have acyclic : marked.Acyclic :=
    (Graph.acyclic_of_shape shape).mpr (Graph.acyclic_of_accepted built accepted)
  have founded := closed.founded acyclic
  rw [satisfyRoot_eq_run]
  exact ⟨founded, _, _, exec_visit_root acyclic founded runner store state, rfl, rfl,
    (Execution.sound_begin marked state).ends acyclic runner store⟩

def sharedLibrary : Store :=
  .ofDeclarations
    [⟨"all", ["tool", "docs", "lib"]⟩, ⟨"tool", ["lib", "lib"]⟩, ⟨"docs", ["lib"]⟩, ⟨"lib", []⟩]

def libraryActions : Store :=
  ((Store.ofDeclarations [⟨"lib", []⟩]).setActions "lib" ["cc", "ar"]).2

def refusesSecond : Runner Nat := fun _ given =>
  ({ failure := if given = 1 then some (.exitStatus (some 1)) else none }, given + 1)

theorem satisfyRoot_eq_visit_shared :
    ∃ g, Graph.build "all" sharedLibrary = .ok g ∧ g.ensureAcyclic.1 = .ok () ∧
      let marked := g.ensureAcyclic.2.withSatisfied (· == 2)
      ∃ (founded : marked.Founded) (done : Progress Nat),
        (Procedure.visit founded refusesSecond libraryActions marked.root).exec
          (.initial marked 0) = (.error ⟨"ar", .exitStatus (some 1)⟩, done) ∧
        done.events.toList = [.started "all", .started "tool", .started "lib", .ran "cc" [],
          .ran "ar" []] := by
  have observed : (Graph.build "all" sharedLibrary).map (fun g =>
      let ended := satisfyRoot refusesSecond libraryActions
        (g.ensureAcyclic.2.withSatisfied (· == 2)) 0
      (g.ensureAcyclic.1, ended.1, ended.2.events.toList)) =
        .ok (.ok (), .error ⟨"ar", .exitStatus (some 1)⟩, [.started "all", .started "tool",
          .started "lib", .ran "cc" [], .ran "ar" []]) := by
    cbv
  cases built : Graph.build "all" sharedLibrary with
  | error e => simp [built, Except.map] at observed
  | ok g =>
    simp only [built, Except.map, Except.ok.injEq, Prod.mk.injEq] at observed
    obtain ⟨accepted, refused, events⟩ := observed
    obtain ⟨founded, answer, done, visited, same, rfl, _⟩ :=
      satisfyRoot_eq_visit built accepted (· == 2) refusesSecond libraryActions 0
    rw [refused] at same
    cases answer with
    | ok _ => cases same
    | error e =>
      cases same
      exact ⟨g, rfl, accepted, founded, _, visited, events⟩

end TaskRunner
