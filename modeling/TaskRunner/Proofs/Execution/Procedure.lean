import Mathlib.Order.WellFoundedSet
import TaskRunner.Execution
import TaskRunner.Proofs.Graph.Edges

/-! Satisfying a task as a recursive procedure. It visits the dependencies of a task, runs the
actions of the task and marks it, and the first failure ends everything. The recursion goes down
from parents to children, which comes to an end on a graph without loops. -/

namespace TaskRunner
open TaskRunner.Graph (Edge)

/-- What has been done, by whatever means: the marks in the graph, the events, the tasks that
finished, and the state of the runner. -/
structure Progress (σ : Type) where
  graph : Graph
  events : Array Event
  finished : List String
  runner : σ

/-- A failure leaves the progress that was made before. -/
abbrev Procedure (σ : Type) := ExceptT ActionError (StateM (Progress σ))

namespace Progress

variable {σ : Type}

def initial (g : Graph) (state : σ) : Progress σ := ⟨g, #[], [], state⟩

def start (p : Progress σ) (id : Nat) : Progress σ :=
  { p with events := p.events.push (.started (p.graph.name id)) }

def ran (p : Progress σ) (runner : Runner σ) (action : String) : Progress σ :=
  let (report, state) := runner action p.runner
  { p with events := p.events.push (.ran action report.output), runner := state }

def finish (p : Progress σ) (id : Nat) : Progress σ :=
  { p with
    graph := p.graph.setSatisfied id true
    events := p.events.push (.finished (p.graph.name id))
    finished := p.finished ++ [p.graph.name id] }

end Progress

/-- Going down from parents to children comes to an end. -/
abbrev Graph.Founded (g : Graph) : Prop := WellFounded fun child parent => g.Edge parent child

theorem Graph.Closure.founded {store : Store} {root : String} {g : Graph}
    (closed : Graph.Closure store root g) (acyclic : g.Acyclic) : g.Founded := by
  let Below (lower upper : Nat) : Prop := Relation.TransGen g.Edge upper lower
  have order : IsStrictOrder Nat Below :=
    { irrefl := acyclic, trans := fun _ _ _ first second => second.trans first }
  have founded : {id | id < g.size}.WellFoundedOn Below := (Set.finite_lt_nat g.size).wellFoundedOn
  rw [Set.wellFoundedOn_iff] at founded
  exact Subrelation.wf (fun edge => ⟨.single edge, closed.lt_size_of_edge edge,
    lt_size_of_mem_children edge⟩) founded

theorem Graph.Founded.of_shape {g h : Graph} (shape : g.unmarked = h.unmarked)
    (founded : g.Founded) : h.Founded := by
  rwa [Graph.Founded, ← Graph.edge_of_shape shape]

namespace Procedure

variable {σ : Type} {α : Type} {g : Graph}

def act (runner : Runner σ) (action : String) : Procedure σ Unit := do
  let report := (runner action (← get).runner).1
  modify (·.ran runner action)
  match report.failure with
  | some failure => throw ⟨action, failure⟩
  | none => pure ()

def complete (runner : Runner σ) (store : Store) (id : Nat) : Procedure σ Unit := do
  (store.actions ((← get).graph.name id)).forM (act runner)
  modify (·.finish id)

/-- Satisfies a task: nothing is left to do if it is, and otherwise its dependencies come first. -/
def visit (founded : g.Founded) (runner : Runner σ) (store : Store) (id : Nat) :
    Procedure σ Unit := do
  unless (← get).graph.satisfied id do
    modify (·.start id)
    (g.children id).attach.forM fun child => visit founded runner store child.1
    complete runner store id
termination_by founded.wrap id
decreasing_by exact child.2

def exec (procedure : Procedure σ α) (p : Progress σ) : Except ActionError α × Progress σ :=
  procedure.run.run p

def andThen {β : Type} (next : α → Procedure σ β) :
    Except ActionError α × Progress σ → Except ActionError β × Progress σ
  | (.ok value, p) => (next value).exec p
  | (.error e, p) => (.error e, p)

theorem exec_bind {β : Type} (first : Procedure σ α) (next : α → Procedure σ β) (p : Progress σ) :
    (first >>= next).exec p = andThen next (first.exec p) := by
  unfold exec
  rw [ExceptT.run_bind, StateT.run_bind]
  show (fun outcome => _) (first.run.run p) = _
  rcases first.run.run p with ⟨_ | value, after⟩
  · rfl
  · rfl

theorem exec_get_bind (next : Progress σ → Procedure σ α) (p : Progress σ) :
    (get >>= next).exec p = (next p).exec p := rfl

theorem exec_modify_bind (change : Progress σ → Progress σ) (next : Unit → Procedure σ α)
    (p : Progress σ) : (modify change >>= next).exec p = (next ()).exec (change p) := rfl

theorem exec_bind_congr {β : Type} {first first' : Procedure σ α} {next next' : α → Procedure σ β}
    {p : Progress σ} (same : first.exec p = first'.exec p)
    (later : ∀ value after, first.exec p = (.ok value, after) →
      (next value).exec after = (next' value).exec after) :
    (first >>= next).exec p = (first' >>= next').exec p := by
  rw [exec_bind, exec_bind, ← same]
  rcases ended : first.exec p with ⟨_ | value, after⟩
  · rfl
  · exact later value after ended

theorem exec_forM_cons (each : α → Procedure σ Unit) (id : α) (ids : List α) (p : Progress σ) :
    ((id :: ids).forM each).exec p = andThen (fun _ => ids.forM each) ((each id).exec p) :=
  exec_bind ..

theorem exec_forM_singleton (each : α → Procedure σ Unit) (id : α) (p : Progress σ) :
    ([id].forM each).exec p = (each id).exec p := by
  rw [exec_forM_cons]
  rcases (each id).exec p with ⟨_ | _, after⟩ <;> rfl

theorem exec_forM_append (each : α → Procedure σ Unit) (ids ids' : List α) (p : Progress σ) :
    ((ids ++ ids').forM each).exec p = andThen (fun _ => ids'.forM each) ((ids.forM each).exec p) := by
  have parts : (ids ++ ids').forM each = ids.forM each >>= fun _ => ids'.forM each :=
    List.forM_append
  rw [parts, exec_bind]

theorem andThen_ok {β : Type} {next : α → Procedure σ β} {value : β}
    {outcome : Except ActionError α × Progress σ} {after : Progress σ}
    (ended : andThen next outcome = (.ok value, after)) :
    ∃ first middle, outcome = (.ok first, middle) ∧ (next first).exec middle = (.ok value, after) := by
  rcases outcome with ⟨_ | first, middle⟩
  · cases ended
  · exact ⟨first, middle, rfl, ended⟩

theorem exec_act (runner : Runner σ) (action : String) (p : Progress σ) :
    (act runner action).exec p =
      (match (runner action p.runner).1.failure with
        | some failure => .error ⟨action, failure⟩
        | none => .ok (), p.ran runner action) := by
  rw [act, exec_get_bind, exec_modify_bind]
  split <;> rfl

theorem exec_visit (founded : g.Founded) (runner : Runner σ) (store : Store) (id : Nat)
    (p : Progress σ) :
    (visit founded runner store id).exec p =
      if p.graph.satisfied id then (.ok (), p)
      else ((g.children id).forM (visit founded runner store) >>= fun _ =>
        complete runner store id).exec (p.start id) := by
  have children : (g.children id).attach.forM (fun child => visit founded runner store child.1) =
      (g.children id).forM (visit founded runner store) := by
    conv_rhs => rw [← List.attach_map_subtype_val (g.children id)]
    exact List.forM_map.symm
  rw [visit, exec_get_bind, children]
  split <;> rfl

def Keeps (g : Graph) (procedure : Procedure σ α) : Prop :=
  ∀ p, p.graph.unmarked = g.unmarked → (procedure.exec p).2.graph.unmarked = g.unmarked

theorem Keeps.bind {β : Type} {first : Procedure σ α} {next : α → Procedure σ β}
    (keeps : Keeps g first) (keeps' : ∀ value, Keeps g (next value)) :
    Keeps g (first >>= next) := by
  intro p shape
  have shape' := keeps p shape
  rw [exec_bind]
  rcases ended : first.exec p with ⟨_ | value, after⟩
  · rwa [ended] at shape'
  · rw [ended] at shape'
    exact keeps' value after shape'

theorem Keeps.forM {ids : List α} {each : α → Procedure σ Unit}
    (keeps : ∀ id ∈ ids, Keeps g (each id)) : Keeps g (ids.forM each) := by
  induction ids with
  | nil => exact fun _ shape => shape
  | cons id ids ih =>
    exact (keeps id List.mem_cons_self).bind fun _ =>
      ih fun other member => keeps other (List.mem_cons_of_mem _ member)

theorem exec_forM_congr {ids : List α} {each each' : α → Procedure σ Unit}
    (keeps : ∀ id ∈ ids, Keeps g (each id))
    (same : ∀ id ∈ ids, ∀ p, p.graph.unmarked = g.unmarked → (each id).exec p = (each' id).exec p)
    {p : Progress σ} (shape : p.graph.unmarked = g.unmarked) :
    (ids.forM each).exec p = (ids.forM each').exec p := by
  induction ids generalizing p with
  | nil => rfl
  | cons id ids ih =>
    apply exec_bind_congr (same id List.mem_cons_self p shape)
    intro _ after ended
    have shape' := keeps id List.mem_cons_self p shape
    rw [ended] at shape'
    exact ih (fun other member => keeps other (List.mem_cons_of_mem _ member))
      (fun other member => same other (List.mem_cons_of_mem _ member)) shape'

theorem keeps_act (runner : Runner σ) (action : String) : Keeps g (act runner action) := by
  intro p shape
  rw [exec_act]
  exact shape

theorem keeps_complete (runner : Runner σ) (store : Store) (id : Nat) :
    Keeps g (complete runner store id) := by
  intro p shape
  unfold complete
  rw [exec_get_bind]
  apply Keeps.bind (.forM fun action _ => keeps_act runner action) _ p shape
  exact fun _ _ shape => (Graph.unmarked_setSatisfied ..).trans shape

theorem keeps_visit (founded : g.Founded) (runner : Runner σ) (store : Store) (id : Nat) :
    Keeps g (visit founded runner store id) := by
  induction id using founded.induction with
  | _ id ih =>
    intro p shape
    rw [exec_visit]
    split
    · exact shape
    · exact (Keeps.forM ih).bind (fun _ => keeps_complete runner store id) (p.start id) shape

end Procedure
end TaskRunner
