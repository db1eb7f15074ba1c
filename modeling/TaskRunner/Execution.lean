import TaskRunner.Action
import TaskRunner.Event
import TaskRunner.Graph.Cycle
import TaskRunner.Store

/-! Satisfying the root of a graph: every dependency first, in declared order, then the task's own
actions. A stack stands in for recursion, and the first action that fails ends everything. A child
is started unless it is satisfied or was started before in the same run; in a graph without cycles
a child that was started before is satisfied when its parent comes to it. -/

namespace TaskRunner
open TaskRunner.Graph (Frame work)

structure Execution (σ : Type) where
  graph : Graph
  begun : Array Bool
  stack : List Frame
  events : Array Event
  runner : σ

namespace Execution

variable {σ : Type}

def unbegun (x : Execution σ) : Nat := x.begun.toList.countP (!·)

/-- A number that no node has counts as started. -/
def isBegun (x : Execution σ) (id : Nat) : Bool :=
  match x.begun[id]? with
  | some begun => begun
  | none => true

def mayStart (x : Execution σ) (id : Nat) : Bool := !x.graph.satisfied id && !x.isBegun id

def withStack (x : Execution σ) (stack : List Frame) : Execution σ := { x with stack }

def record (x : Execution σ) (event : Event) : Execution σ :=
  { x with events := x.events.push event }

def start (x : Execution σ) (id : Nat) : Execution σ :=
  let started := x.record (.started (x.graph.name id))
  { started with
    begun := started.begun.modify id fun _ => true
    stack := ⟨id, started.graph.children id⟩ :: started.stack }

def runAction (run : Runner σ) (x : Execution σ) (action : String) :
    Option ActionFailure × Execution σ :=
  let (report, runner) := run action x.runner
  (report.failure, { x with events := x.events.push (.ran action report.output), runner })

/-- Gives actions to the runner in turn, up to the first that fails. -/
def runActions (run : Runner σ) (x : Execution σ) :
    List String → Option ActionError × Execution σ
  | [] => (none, x)
  | action :: actions =>
    match x.runAction run action with
    | (some failure, x) => (some ⟨action, failure⟩, x)
    | (none, x) => x.runActions run actions

def finish (x : Execution σ) (id : Nat) (below : List Frame) : Execution σ :=
  let finished := x.record (.finished (x.graph.name id))
  { finished with graph := finished.graph.setSatisfied id true, stack := below }

/-- One step; the answer stands beside the state once there is one. -/
def step (run : Runner σ) (store : Store) (x : Execution σ) :
    Option (Except ActionError Unit) × Execution σ :=
  match x.stack with
  | [] => (some (.ok ()), x)
  | ⟨node, child :: rest⟩ :: below =>
    if x.mayStart child then (none, (x.withStack (⟨node, rest⟩ :: below)).start child)
    else (none, x.withStack (⟨node, rest⟩ :: below))
  | ⟨node, []⟩ :: below =>
    match x.runActions run (store.actions (x.graph.name node)) with
    | (some e, x) => (some (.error e), x)
    | (none, x) => (none, x.finish node below)

theorem countP_modify_true {begun : List Bool} {id : Nat} (fresh : begun[id]? = some false) :
    (begun.modify id fun _ => true).countP (!·) < begun.countP (!·) := by
  induction begun generalizing id with
  | nil => simp at fresh
  | cons first rest ih =>
    cases id with
    | zero => simp_all
    | succ id =>
      simp only [List.modify_succ_cons, List.countP_cons]
      exact Nat.add_lt_add_right (ih (by simpa using fresh)) _

theorem unbegun_start {x : Execution σ} {id : Nat} (fresh : x.isBegun id = false) :
    (x.start id).unbegun < x.unbegun := by
  unfold unbegun start record
  simp only [Array.toList_modify]
  apply countP_modify_true
  unfold isBegun at fresh
  split at fresh
  · next found =>
    rw [Array.getElem?_toList, found, fresh]
  · simp at fresh

theorem begun_runAction (run : Runner σ) (x : Execution σ) (action : String) :
    (x.runAction run action).2.begun = x.begun := rfl

theorem begun_runActions (run : Runner σ) (x : Execution σ) (actions : List String) :
    (x.runActions run actions).2.begun = x.begun := by
  induction actions generalizing x with
  | nil => rfl
  | cons action actions ih =>
    unfold runActions
    have kept := begun_runAction run x action
    split
    · next answered => rwa [answered] at kept
    · next answered =>
      rw [answered] at kept
      exact (ih _).trans kept

theorem step_decreases {run : Runner σ} {store : Store} {x after : Execution σ}
    (stepped : x.step run store = (none, after)) :
    after.unbegun < x.unbegun ∨
      after.unbegun = x.unbegun ∧ work after.stack < work x.stack := by
  unfold step at stepped
  split at stepped
  · simp at stepped
  · next stacked =>
    split at stepped
    · next startable =>
      cases stepped
      simp only [mayStart, Bool.and_eq_true, Bool.not_eq_true'] at startable
      exact .inl (unbegun_start startable.2)
    · cases stepped
      refine .inr ⟨rfl, ?_⟩
      simp only [stacked, withStack, work, List.length_cons]
      omega
  · next node below stacked =>
    have kept := begun_runActions run x (store.actions (x.graph.name node))
    split at stepped
    · simp at stepped
    · next answered =>
      cases stepped
      rw [answered] at kept
      refine .inr ⟨congrArg (fun begun : Array Bool => begun.toList.countP (!·)) kept, ?_⟩
      simp only [stacked, work, finish, record]
      omega

def run (runner : Runner σ) (store : Store) (x : Execution σ) :
    Except ActionError Unit × Execution σ :=
  match _stepped : x.step runner store with
  | (none, after) => after.run runner store
  | (some answer, after) => (answer, after)
termination_by (x.unbegun, work x.stack)
decreasing_by
  rcases step_decreases _stepped with fewer | ⟨same, less⟩
  · exact .left _ _ fewer
  · rw [same]
    exact .right _ less

/-- The execution at its start. A root that is satisfied is not started. -/
def begin (g : Graph) (state : σ) : Execution σ :=
  let idle : Execution σ :=
    { graph := g, begun := .replicate g.size false, stack := [], events := #[], runner := state }
  if g.satisfied g.root then idle else idle.start g.root

def finishedTasks (x : Execution σ) : List String := x.events.toList.filterMap Event.finishedTask?

def executedActions (x : Execution σ) : List String := x.events.toList.filterMap Event.action?

end Execution

/-- Satisfies the root of a graph. The answer is the tasks that finished, or the failure. -/
def satisfyRoot {σ : Type} (runner : Runner σ) (store : Store) (g : Graph) (state : σ) :
    Except ActionError (List String) × Execution σ :=
  match (Execution.begin g state).run runner store with
  | (.ok _, x) => (.ok x.finishedTasks, x)
  | (.error e, x) => (.error e, x)

end TaskRunner
