import TaskRunner.Proofs.Execution.Performance

/-! The order in which tasks finish when no action fails. It is the order in which the walk leaves the
nodes, each one behind its children. If nothing is satisfied before, every node below the root is
left once. -/

namespace TaskRunner
open Relation Move

variable {σ : Type} {g : Graph} {runner : Runner σ} {store declared : Store} {root : String}
  {moves : List Move}

/-- No action fails. -/
def Runner.Accepts (runner : Runner σ) : Prop :=
  ∀ action state, (runner action state).1.failure = none

theorem Runner.Accepts.acceptsAll (accepts : runner.Accepts) (state : σ) (actions : List String) :
    runner.AcceptsAll state actions := by
  induction actions generalizing state with
  | nil => exact nofun
  | cons action actions ih =>
    intro report member
    rcases List.mem_cons.mp member with rfl | later
    · exact accepts action state
    · exact ih _ report later

/-- Every node stands behind its children. -/
def ChildrenFirst (g : Graph) (done : List Nat) : Prop :=
  ∀ front id back, done = front ++ id :: back → ∀ child, g.Edge id child → child ∈ front

theorem ChildrenFirst.mem_of_path {done : List Nat} {id other : Nat}
    (ordered : ChildrenFirst g done) (member : id ∈ done) (path : ReflTransGen g.Edge id other) :
    other ∈ done := by
  induction path with
  | refl => exact member
  | tail _ edge ih =>
    obtain ⟨front, back, split⟩ := List.append_of_mem ih
    rw [split]
    exact List.mem_append_left _ (ordered front _ back split _ edge)

theorem Walk.lt_size_of_exit (closed : g.Closure declared root)
    (walk : Walk g g.satisfied [g.root] moves) {id : Nat} (left : id ∈ exits moves) : id < g.size := by
  obtain ⟨first, member, path⟩ := walk.path_of_exit left
  rw [List.mem_singleton.mp member, closed.root_eq] at path
  exact closed.lt_size_of_path closed.size_pos path

section Fresh
variable (closed : g.Closure declared root) (fresh : ∀ id, id < g.size → g.satisfied id = false)
  (walk : Walk g g.satisfied [g.root] moves)
include closed fresh walk

theorem Walk.childrenFirst : ChildrenFirst g (exits moves) := by
  intro front id back split child edge
  refine (walk.behind_children split edge).resolve_left ?_
  rw [fresh child (closed.lt_size_of_edge edge)]
  exact Bool.false_ne_true

theorem Walk.mem_exits_iff (id : Nat) : id ∈ exits moves ↔ id < g.size := by
  have left : g.root ∈ exits moves := by
    have marked := walk.marked_of_mem (List.mem_singleton_self _)
    rw [Marks.adding_eq_true, closed.root_eq, fresh 0 closed.size_pos] at marked
    exact closed.root_eq ▸ marked.resolve_left Bool.false_ne_true
  refine ⟨walk.lt_size_of_exit closed, fun inside => ?_⟩
  have path := closed.path_from_root inside
  exact (walk.childrenFirst closed fresh).mem_of_path left (closed.root_eq ▸ path)

end Fresh

theorem satisfyRoot_of_accepts (founded : g.Founded) (acyclic : g.Acyclic)
    (walk : Walk g g.satisfied [g.root] moves) (accepts : runner.Accepts) (store : Store) (state : σ) :
    (satisfyRoot runner store g state).1 = .ok ((exits moves).map g.name) ∧
      Performed g store runner state moves (satisfyRoot runner store g state).2.progress := by
  rcases satisfyRoot_performs founded acyclic walk runner store state with
    performed | ⟨_, _, _, _, _, _, halted⟩
  · exact performed
  · exact absurd (accepts.acceptsAll state _) halted.refused.not_acceptsAll

/-- Satisfying the root of a graph in which nothing is satisfied finishes every node once. -/
theorem satisfyRoot_ledger (closed : g.Closure declared root)
    (acyclic : g.Acyclic) (fresh : ∀ id, id < g.size → g.satisfied id = false)
    (accepts : runner.Accepts) (store : Store) (state : σ) :
    ∃ done, (satisfyRoot runner store g state).1 = .ok (done.map g.name) ∧
      (satisfyRoot runner store g state).2.executedActions =
        done.flatMap (fun id => store.actions (g.name id)) ∧
      (satisfyRoot runner store g state).2.runner =
        runner.after state (done.flatMap fun id => store.actions (g.name id)) ∧
      done.Nodup ∧ (∀ id, id ∈ done ↔ id < g.size) ∧ ChildrenFirst g done := by
  have founded := closed.founded acyclic
  obtain ⟨moves, walk⟩ := Walk.exists_of_founded founded g.satisfied [g.root]
  obtain ⟨answer, performed⟩ := satisfyRoot_of_accepts founded acyclic walk accepts store state
  have executed : (satisfyRoot runner store g state).2.executedActions =
      (exits moves).flatMap fun id => store.actions (g.name id) := by
    rw [Execution.executedActions_eq, Execution.trace, performed.trace, filterMap_action?_trace]
  exact ⟨exits moves, answer, executed, performed.runner_eq.trans (congrArg _ executed),
    walk.nodup_exits acyclic, walk.mem_exits_iff closed fresh, walk.childrenFirst closed fresh⟩

end TaskRunner
