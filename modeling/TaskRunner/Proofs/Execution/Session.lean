import TaskRunner.Proofs.Execution.Retry

/-! A session of a graph that was built: checks of it, and calls that satisfy its root, any number of
them and in any order, each such call with a store and a runner of its own. Whatever fails, and
wherever the session is interrupted, the graph is the one that was built but for its marks, what
stands on a stack is in it, and no node is satisfied before its children. -/

namespace TaskRunner
open TaskRunner.Graph (Frame Search)
open Relation

variable {σ : Type}

/-- Where a session is between two steps. -/
inductive Moment : Type 1 where
  | atRest (g : Graph)
  | checking (s : Search)
  | visiting {σ : Type} (runner : Runner σ) (store : Store) (x : Execution σ)
  /-- Such a call has these actions left of those of a node. -/
  | acting {σ : Type} (runner : Runner σ) (store : Store) (x : Execution σ) (node : Nat)
      (actions : List String)

namespace Moment

def graph : Moment → Graph
  | atRest g => g
  | checking s => s.graph
  | visiting _ _ x => x.graph
  | acting _ _ x _ _ => x.graph

def stack : Moment → List Frame
  | atRest _ => []
  | checking s => s.stack
  | visiting _ _ x => x.stack
  | acting _ _ x _ _ => x.stack

def actingNode? : Moment → Option Nat
  | acting _ _ _ node _ => some node
  | _ => none

end Moment

open Moment

/-- One step of a session of this graph, as it was built. A call begins when the one before has ended,
whatever its answer. The root is satisfied only of a graph whose first check accepted it. -/
inductive Next (g : Graph) : Moment → Moment → Prop
  | check (h : Graph) : Next g (atRest h) (checking h.search)
  | search {s after : Search} (stepped : s.step = (none, after)) :
      Next g (checking s) (checking after)
  | checked {s after : Search} {answer : Except GraphError Unit}
      (stepped : s.step = (some answer, after)) : Next g (checking s) (atRest after.graph)
  | satisfy (accepted : g.ensureAcyclic.1 = .ok ()) {σ : Type} (runner : Runner σ) (store : Store)
      (h : Graph) (state : σ) : Next g (atRest h) (visiting runner store (.begin h state))
  | visit {σ : Type} {runner : Runner σ} {store : Store} {x after : Execution σ} {node child : Nat}
      {rest : List Nat} {below : List Frame} (stacked : x.stack = ⟨node, child :: rest⟩ :: below)
      (stepped : x.step runner store = (none, after)) :
      Next g (visiting runner store x) (visiting runner store after)
  | act {σ : Type} {runner : Runner σ} {store : Store} {x : Execution σ} {node : Nat}
      {below : List Frame} (stacked : x.stack = ⟨node, []⟩ :: below) :
      Next g (visiting runner store x)
        (acting runner store x node (store.actions (x.graph.name node)))
  | accept {σ : Type} {runner : Runner σ} {store : Store} {x after : Execution σ} {node : Nat}
      {action : String} {actions : List String} (ran : x.runAction runner action = (none, after)) :
      Next g (acting runner store x node (action :: actions)) (acting runner store after node actions)
  | refuse {σ : Type} {runner : Runner σ} {store : Store} {x after : Execution σ} {node : Nat}
      {action : String} {actions : List String} {failure : ActionFailure}
      (ran : x.runAction runner action = (some failure, after)) :
      Next g (acting runner store x node (action :: actions)) (atRest after.graph)
  | finish {σ : Type} {runner : Runner σ} {store : Store} {x : Execution σ} {node : Nat}
      {below : List Frame} (stacked : x.stack = ⟨node, []⟩ :: below) :
      Next g (acting runner store x node []) (visiting runner store (x.finish node below))
  | satisfied {σ : Type} {runner : Runner σ} {store : Store} {x : Execution σ}
      (ended : x.stack = []) : Next g (visiting runner store x) (atRest x.graph)

abbrev Session (g : Graph) : Moment → Moment → Prop := ReflTransGen (Next g)

section Calls
variable {g : Graph} {runner : Runner σ} {store : Store} {x after : Execution σ} {node : Nat}
  {actions : List String}

/-! Calls that are carried out are parts of a session. -/

theorem session_search (g : Graph) (s : Search) : Session g (checking s) (atRest s.run.2.graph) := by
  fun_induction Search.run s with
  | case1 s after stepped ih => exact .head (.search stepped) ih
  | case2 s answer after stepped => exact .single (.checked stepped)

theorem session_ensureAcyclic (g h : Graph) : Session g (atRest h) (atRest h.ensureAcyclic.2) :=
  .head (.check h) (session_search g h.search)

theorem session_runActions (ran : x.runActions runner actions = (none, after)) :
    Session g (acting runner store x node actions) (acting runner store after node []) := by
  induction actions generalizing x with
  | nil =>
    cases ran
    exact .refl
  | cons action actions ih =>
    unfold Execution.runActions at ran
    split at ran
    next => cases ran
    next answered => exact .head (.accept answered) (ih ran)

theorem session_runActions_refused {e : ActionError}
    (ran : x.runActions runner actions = (some e, after)) :
    Session g (acting runner store x node actions) (atRest after.graph) := by
  induction actions generalizing x with
  | nil => cases ran
  | cons action actions ih =>
    unfold Execution.runActions at ran
    split at ran
    next answered =>
      cases ran
      exact .single (.refuse answered)
    next answered => exact .head (.accept answered) (ih ran)

theorem session_step (stepped : x.step runner store = (none, after)) :
    Session g (visiting runner store x) (visiting runner store after) := by
  rcases Execution.step_cases stepped with ⟨_, _, _, _, stacked, _⟩ | ⟨_, _, _, _, stacked, _⟩ |
    ⟨node, below, ran, stacked, answered, rfl⟩
  · exact .single (.visit stacked stepped)
  · exact .single (.visit stacked stepped)
  · obtain ⟨events, state, frame⟩ :=
      Execution.frame_runActions runner x (store.actions (x.graph.name node))
    rw [answered] at frame
    have kept : ran.stack = ⟨node, []⟩ :: below := (congrArg Execution.stack frame).trans stacked
    exact .head (.act stacked) ((session_runActions answered).tail (.finish kept))

theorem session_answer {answer : Except ActionError Unit}
    (stepped : x.step runner store = (some answer, after)) :
    Session g (visiting runner store x) (atRest after.graph) := by
  rcases Execution.step_answer stepped with ⟨empty, _, rfl⟩ | ⟨_, _, _, stacked, answered, _⟩
  · exact .single (.satisfied empty)
  · exact .head (.act stacked) (session_runActions_refused answered)

theorem session_run (g : Graph) (runner : Runner σ) (store : Store) (x : Execution σ) :
    Session g (visiting runner store x) (atRest (x.run runner store).2.graph) := by
  fun_induction Execution.run runner store x with
  | case1 x after stepped ih => exact (session_step stepped).trans ih
  | case2 x answer after stepped => exact session_answer stepped

theorem session_satisfyRoot (accepted : g.ensureAcyclic.1 = .ok ()) (runner : Runner σ)
    (store : Store) (h : Graph) (state : σ) :
    Session g (atRest h) (atRest (satisfyRoot runner store h state).2.graph) := by
  rw [satisfyRoot_eq_run]
  exact .head (.satisfy accepted runner store h state) (session_run g runner store _)

end Calls

def Downward (g : Graph) (marks : Marks) : Prop :=
  ∀ parent child, g.Edge parent child → marks parent = true → marks child = true

def Graph.Fits (g : Graph) (frame : Frame) : Prop :=
  frame.node < g.size ∧ frame.rest <:+ g.children frame.node

/-- Every frame has passed over the first of its children. They are satisfied, all but the one that
the frame above it stands for. -/
def Passed (g : Graph) (marks : Marks) : Option Nat → List Frame → Prop
  | _, [] => True
  | above, frame :: below =>
    (∃ seen, g.children frame.node = seen ++ frame.rest ∧
      ∀ child ∈ seen, marks child = true ∨ above = some child) ∧
    Passed g marks (some frame.node) below

section Passed
variable {g : Graph} {marks : Marks} {above : Option Nat} {node child : Nat} {rest : List Nat}
  {stack below : List Frame}

theorem Passed.mono {more : Marks} (kept : ∀ id, marks id = true → more id = true)
    (passed : Passed g marks above stack) : Passed g more above stack := by
  induction stack generalizing above with
  | nil => trivial
  | cons frame below ih =>
    obtain ⟨⟨seen, split, done⟩, lower⟩ := passed
    exact ⟨⟨seen, split, fun child member => (done child member).imp_left (kept child)⟩, ih lower⟩

theorem Passed.left (done : marks node = true) (passed : Passed g marks (some node) stack) :
    Passed g marks none stack := by
  cases stack with
  | nil => trivial
  | cons frame below =>
    obtain ⟨⟨seen, split, finished⟩, lower⟩ := passed
    refine ⟨⟨seen, split, fun child member => .inl ?_⟩, lower⟩
    rcases finished child member with done' | same
    · exact done'
    · exact Option.some.inj same ▸ done

theorem Passed.next (passed : Passed g marks none (⟨node, child :: rest⟩ :: below))
    (settled : marks child = true ∨ above = some child) :
    Passed g marks above (⟨node, rest⟩ :: below) := by
  obtain ⟨⟨seen, split, done⟩, lower⟩ := passed
  refine ⟨⟨seen ++ [child], ?_, fun other member => ?_⟩, lower⟩
  · rw [split, List.append_assoc]
    rfl
  · rcases List.mem_append.mp member with before | last
    · exact .inl ((done other before).resolve_right nofun)
    · exact List.mem_singleton.mp last ▸ settled

theorem Passed.children (passed : Passed g marks none (⟨node, []⟩ :: below)) :
    ∀ child ∈ g.children node, marks child = true := by
  obtain ⟨⟨seen, split, done⟩, _⟩ := passed
  intro child member
  rw [split, List.append_nil] at member
  exact (done child member).resolve_right nofun

theorem Passed.suffix (passed : Passed g marks above stack) :
    ∀ frame ∈ stack, frame.rest <:+ g.children frame.node := by
  induction stack generalizing above with
  | nil => exact List.forall_mem_nil _
  | cons frame below ih =>
    obtain ⟨⟨seen, split, _⟩, lower⟩ := passed
    intro other member
    rcases List.mem_cons.mp member with rfl | inside
    · exact ⟨seen, split.symm⟩
    · exact ih lower other inside

end Passed

/-- What holds between the turns of a call that satisfies the root: the nodes on its stack are not
satisfied, and it stops at a child that is not satisfied to deal with it first. -/
structure Visiting (g : Graph) (x : Execution σ) : Prop where
  acyclic : g.Acyclic
  sound : x.Sound g
  waiting : ∀ frame ∈ x.stack, x.graph.satisfied frame.node = false
  passed : Passed g x.graph.satisfied none x.stack
  downward : Downward g x.graph.satisfied

theorem Execution.frame_runAction {runner : Runner σ} {x after : Execution σ} {action : String}
    {failure : Option ActionFailure} (ran : x.runAction runner action = (failure, after)) :
    ∃ events state, after = { x with events, runner := state } :=
  ⟨_, _, (congrArg Prod.snd ran).symm⟩

theorem Execution.Sound.of_shape {g h : Graph} {x : Execution σ} (shape : h.unmarked = g.unmarked)
    (sound : x.Sound h) : x.Sound g := by
  obtain ⟨same, size, edges, chain, begun⟩ := sound
  rw [Graph.edge_of_shape shape] at edges chain
  exact ⟨same.trans shape, size.trans (Graph.size_of_shape shape), edges, chain, begun⟩

namespace Visiting

variable {g h : Graph} {runner : Runner σ} {store : Store} {x after : Execution σ}
  {node child : Nat} {rest : List Nat} {below : List Frame}

theorem shape (kept : Visiting g x) : x.graph.unmarked = g.unmarked := kept.sound.shape

theorem begin (acyclic : g.Acyclic) (shape : h.unmarked = g.unmarked)
    (downward : Downward g h.satisfied) (state : σ) : Visiting g (Execution.begin h state) := by
  have sound := (Execution.sound_begin h state).of_shape shape
  by_cases done : h.satisfied h.root = true
  · rw [Execution.begin, if_pos done] at sound ⊢
    exact ⟨acyclic, sound, List.forall_mem_nil _, trivial, downward⟩
  · rw [Execution.begin, if_neg done] at sound ⊢
    refine ⟨acyclic, sound, ?_, ⟨⟨[], ?_, List.forall_mem_nil _⟩, trivial⟩, downward⟩
    · exact List.forall_mem_singleton.mpr (Bool.eq_false_iff.mpr done)
    · exact (Graph.children_of_shape shape h.root).symm

theorem visit (kept : Visiting g x) (stacked : x.stack = ⟨node, child :: rest⟩ :: below)
    (stepped : x.step runner store = (none, after)) : Visiting g after := by
  have sound := kept.sound.step stepped
  have waiting := kept.waiting
  have passed := kept.passed
  rw [stacked] at waiting passed
  obtain ⟨top, lower⟩ := List.forall_mem_cons.mp waiting
  rcases Execution.step_cases stepped with ⟨_, _, _, _, stacked', startable, rfl⟩ |
    ⟨_, _, _, _, stacked', refused, rfl⟩ | ⟨_, _, _, stacked', _⟩
  all_goals cases stacked.symm.trans stacked'
  · rw [kept.sound.mayStart kept.acyclic stacked, Bool.not_eq_true'] at startable
    refine ⟨kept.acyclic, sound, ?_, ⟨⟨[], ?_, List.forall_mem_nil _⟩, passed.next (.inr rfl)⟩,
      kept.downward⟩
    · exact List.forall_mem_cons.mpr ⟨startable, List.forall_mem_cons.mpr ⟨top, lower⟩⟩
    · exact (Graph.children_of_shape kept.shape child).symm
  · rw [kept.sound.mayStart kept.acyclic stacked, Bool.not_eq_false'] at refused
    exact ⟨kept.acyclic, sound, List.forall_mem_cons.mpr ⟨top, lower⟩, passed.next (.inl refused),
      kept.downward⟩

theorem of_frame (kept : Visiting g x) (events : Array Event) (state : σ) :
    Visiting g { x with events, runner := state } :=
  ⟨kept.acyclic, ⟨kept.sound.shape, kept.sound.size, kept.sound.edges, kept.sound.chain,
    kept.sound.begun⟩, kept.waiting, kept.passed, kept.downward⟩

theorem finish (kept : Visiting g x) (stacked : x.stack = ⟨node, []⟩ :: below) :
    Visiting g (x.finish node below) := by
  have sound := kept.sound.finish stacked
  obtain ⟨acyclic, before, waiting, passed, downward⟩ := kept
  have chain := before.chain
  rw [stacked] at waiting passed chain
  have marks : ∀ id, (x.finish node below).graph.satisfied id = true ↔
      node = id ∨ x.graph.satisfied id = true := Graph.satisfied_setSatisfied_true x.graph node
  have more : ∀ id, x.graph.satisfied id = true → (x.finish node below).graph.satisfied id = true :=
    fun id done => (marks id).mpr (.inr done)
  refine ⟨acyclic, sound, fun frame member => ?_, ?_, fun parent child edge done => ?_⟩
  · rw [Bool.eq_false_iff, Ne, marks, not_or, Bool.not_eq_true]
    refine ⟨?_, waiting frame (List.mem_cons_of_mem _ member)⟩
    -- On the stack below a node stand nodes that lead to it, and none of them is the node itself.
    rintro rfl
    exact acyclic frame.node (List.rel_of_pairwise_cons chain (List.mem_map_of_mem member))
  · exact (passed.2.mono more).left ((marks node).mpr (.inl rfl))
  · rcases (marks parent).mp done with rfl | done'
    · exact more child (passed.children child edge)
    · exact more child (downward parent child edge done')

theorem fits (kept : Visiting g x) : ∀ frame ∈ x.stack, g.Fits frame := by
  intro frame member
  refine ⟨?_, kept.passed.suffix frame member⟩
  rw [← Graph.size_of_shape kept.shape]
  exact Graph.lt_size_of_satisfied (kept.waiting frame member)

end Visiting

def Kept (g : Graph) : Moment → Prop
  | atRest h => h.unmarked = g.unmarked ∧ Downward g h.satisfied
  | checking s =>
    s.graph.unmarked = g.unmarked ∧ Downward g s.graph.satisfied ∧ ∀ frame ∈ s.stack, g.Fits frame
  | visiting _ _ x => Visiting g x
  | acting _ _ x node _ => Visiting g x ∧ ∃ below, x.stack = ⟨node, []⟩ :: below

section Kept
variable {g : Graph} {m later : Moment}

theorem fits_search {h : Graph} (shape : h.unmarked = g.unmarked) :
    ∀ frame ∈ h.search.stack, g.Fits frame := by
  unfold Graph.search
  split
  next fresh =>
    have inside : h.root < h.size := Graph.lt_size_of_visit (by simp [fresh])
    refine List.forall_mem_singleton.mpr ⟨Graph.size_of_shape shape ▸ inside, ?_⟩
    rw [Graph.children_setVisit, Graph.children_of_shape shape]
  next => exact List.forall_mem_nil _

theorem fits_step {s after : Search} (shape : s.graph.unmarked = g.unmarked)
    (fits : ∀ frame ∈ s.stack, g.Fits frame) (stepped : s.step = (none, after)) :
    ∀ frame ∈ after.stack, g.Fits frame := by
  rcases Search.step_cases stepped with ⟨node, below, stacked, rfl⟩ |
    ⟨node, child, rest, below, stacked, _, rfl⟩ | ⟨node, child, rest, below, stacked, fresh, rfl⟩
  all_goals
    rw [stacked] at fits
    obtain ⟨⟨inside, part⟩, lower⟩ := List.forall_mem_cons.mp fits
  · exact lower
  all_goals
    have dropped : g.Fits ⟨node, rest⟩ := ⟨inside, (List.suffix_cons child rest).trans part⟩
  · exact List.forall_mem_cons.mpr ⟨dropped, lower⟩
  · have within : child < s.graph.size := Graph.lt_size_of_visit (by simp [fresh])
    have entered : g.Fits ⟨child, s.graph.children child⟩ := by
      refine ⟨Graph.size_of_shape shape ▸ within, ?_⟩
      rw [Graph.children_of_shape shape]
    exact List.forall_mem_cons.mpr ⟨entered, List.forall_mem_cons.mpr ⟨dropped, lower⟩⟩

theorem Kept.next (acyclic : g.ensureAcyclic.1 = .ok () → g.Acyclic) (kept : Kept g m)
    (next : Next g m later) : Kept g later := by
  cases next with
  | check h =>
    obtain ⟨shape, downward⟩ := kept
    refine ⟨(Graph.unmarked_search h).trans shape, ?_, fits_search shape⟩
    rwa [funext (Graph.satisfied_search h)]
  | search stepped =>
    obtain ⟨shape, downward, fits⟩ := kept
    refine ⟨(Search.unmarked_step stepped).trans shape, ?_, fits_step shape fits stepped⟩
    rwa [funext (Search.satisfied_step stepped)]
  | checked stepped =>
    obtain ⟨rfl, _⟩ := Search.step_answer stepped
    exact ⟨kept.1, kept.2.1⟩
  | satisfy accepted runner store h state => exact .begin (acyclic accepted) kept.1 kept.2 state
  | visit stacked stepped => exact Visiting.visit kept stacked stepped
  | act stacked => exact ⟨kept, _, stacked⟩
  | accept ran =>
    obtain ⟨events, state, rfl⟩ := Execution.frame_runAction ran
    exact ⟨kept.1.of_frame events state, kept.2⟩
  | refuse ran =>
    obtain ⟨_, _, rfl⟩ := Execution.frame_runAction ran
    exact ⟨kept.1.shape, kept.1.downward⟩
  | finish stacked => exact kept.1.finish stacked
  | satisfied ended => exact ⟨kept.shape, kept.downward⟩

theorem kept_of_build {declared : Store} {root : String} (built : Graph.build root declared = .ok g) :
    Kept g (atRest g) := by
  refine ⟨rfl, fun parent child edge done => ?_⟩
  have unmarked := Graph.satisfied_of_unmarked (Graph.unmarked_of_build built)
    (Graph.lt_size_of_mem_children edge)
  cases done.symm.trans unmarked

theorem Kept.session (acyclic : g.ensureAcyclic.1 = .ok () → g.Acyclic) (kept : Kept g m)
    (session : Session g m later) : Kept g later := by
  induction session with
  | refl => exact kept
  | tail _ next ih => exact ih.next acyclic next

namespace Kept

theorem shape (kept : Kept g m) : m.graph.unmarked = g.unmarked := by
  cases m with
  | atRest | checking => exact kept.1
  | visiting => exact Visiting.shape kept
  | acting => exact kept.1.shape

theorem downward (kept : Kept g m) : Downward g m.graph.satisfied := by
  cases m with
  | atRest => exact kept.2
  | checking => exact kept.2.1
  | visiting => exact Visiting.downward kept
  | acting => exact kept.1.downward

theorem fits (kept : Kept g m) : ∀ frame ∈ m.stack, g.Fits frame := by
  cases m with
  | atRest => exact List.forall_mem_nil _
  | checking => exact kept.2.2
  | visiting => exact Visiting.fits kept
  | acting => exact kept.1.fits

theorem acting (kept : Kept g m) {node : Nat} (given : m.actingNode? = some node) :
    m.graph.satisfied node = false ∧ ∀ child ∈ g.children node, m.graph.satisfied child = true := by
  cases m with
  | atRest | checking | visiting => cases given
  | acting runner store x top actions =>
    obtain rfl : top = node := Option.some.inj given
    obtain ⟨kept, below, stacked⟩ := kept
    have waiting := kept.waiting
    have passed := kept.passed
    rw [stacked] at waiting passed
    exact ⟨waiting ⟨top, []⟩ List.mem_cons_self, passed.children⟩

end Kept

theorem Next.satisfied_mono (next : Next g m later) {id : Nat}
    (done : m.graph.satisfied id = true) : later.graph.satisfied id = true := by
  cases next with
  | check h => exact (Graph.satisfied_search h id).trans done
  | search stepped => exact (Search.satisfied_step stepped id).trans done
  | checked stepped =>
    obtain ⟨rfl, _⟩ := Search.step_answer stepped
    exact done
  | satisfy accepted runner store h state =>
    unfold Execution.begin
    split <;> exact done
  | visit stacked stepped =>
    rcases Execution.step_cases stepped with ⟨_, _, _, _, _, _, rfl⟩ | ⟨_, _, _, _, _, _, rfl⟩ |
      ⟨_, _, _, stacked', _⟩
    · exact done
    · exact done
    · cases stacked.symm.trans stacked'
  | act => exact done
  | accept ran | refuse ran =>
    obtain ⟨_, _, rfl⟩ := Execution.frame_runAction ran
    exact done
  | finish => exact (Graph.satisfied_setSatisfied_true ..).mpr (.inr done)
  | satisfied => exact done

theorem Session.satisfied_mono (session : Session g m later) {id : Nat}
    (done : m.graph.satisfied id = true) : later.graph.satisfied id = true := by
  induction session with
  | refl => exact done
  | tail _ next ih => exact next.satisfied_mono ih

end Kept

/-- The graph that was built, but for its marks: names, children, numbers and root are the same, and
whatever is looked up is a node. No node is satisfied before its children are, and while a task
gives its actions to the runner, its children are satisfied and it is not. -/
structure Intact (g : Graph) (m : Moment) : Prop where
  shape : m.graph.unmarked = g
  root_lt : m.graph.root < m.graph.size
  child_lt : ∀ id, ∀ child ∈ m.graph.children id, child < m.graph.size
  stack_lt : ∀ frame ∈ m.stack, frame.node < m.graph.size
  stack_rest : ∀ frame ∈ m.stack, frame.rest <:+ m.graph.children frame.node
  downward : Downward m.graph m.graph.satisfied
  acting : ∀ node, m.actingNode? = some node → m.graph.satisfied node = false ∧
    ∀ child ∈ m.graph.children node, m.graph.satisfied child = true

theorem Kept.intact {declared : Store} {root : String} {g : Graph} {m : Moment} (kept : Kept g m)
    (closed : g.Closure declared root) (fresh : g.unmarked = g) : Intact g m := by
  have closed' := closed.of_shape kept.shape.symm
  have size := Graph.size_of_shape kept.shape
  have children := Graph.children_of_shape kept.shape
  refine ⟨kept.shape.trans fresh, ?_, fun id child => closed'.lt_size_of_edge, fun frame member => ?_,
    fun frame member => ?_, ?_, fun node given => ?_⟩
  · exact closed'.root_eq ▸ closed'.size_pos
  · exact size ▸ (kept.fits frame member).1
  · exact children frame.node ▸ (kept.fits frame member).2
  · rw [Downward, Graph.edge_of_shape kept.shape]
    exact kept.downward
  · rw [children]
    exact kept.acting given

/-- Calls on a graph that was built are carried out in a session of it. At every moment of a session
the graph is intact, and what is satisfied stays so. -/
theorem session_intact {declared : Store} {root : String} {g : Graph}
    (built : Graph.build root declared = .ok g) :
    (∀ h, Session g (atRest h) (atRest h.ensureAcyclic.2)) ∧
      (g.ensureAcyclic.1 = .ok () → ∀ {σ : Type} (runner : Runner σ) (store : Store) (h : Graph)
        (state : σ), Session g (atRest h) (atRest (satisfyRoot runner store h state).2.graph)) ∧
      ∀ m, Session g (atRest g) m → Intact g m ∧ ∀ later, Session g m later → ∀ id,
        m.graph.satisfied id = true → later.graph.satisfied id = true := by
  refine ⟨session_ensureAcyclic g, fun accepted _ => session_satisfyRoot accepted,
    fun m reached => ⟨?_, fun later session id => session.satisfied_mono⟩⟩
  have acyclic : g.ensureAcyclic.1 = .ok () → g.Acyclic := fun accepted =>
    (Graph.acyclic_of_shape (Graph.unmarked_ensureAcyclic g)).mp
      (Graph.acyclic_of_accepted built accepted)
  exact ((kept_of_build built).session acyclic reached).intact (Graph.closure_of_build built)
    (Graph.unmarked_of_build built)

theorem session_intact_retried :
    ∃ g x, Graph.build "tool" linkedTool = .ok g ∧
      let m := acting acceptsAny linkActions x 0 ["ld"]
      Session g (atRest g) m ∧ Intact g m ∧ x.graph.children 0 = [1] ∧
        x.graph.satisfied 1 = true ∧ x.graph.satisfied 0 = false := by
  have observed : (Graph.build "tool" linkedTool).map (fun g =>
      let failed := satisfyRoot refusesSecond linkActions g.ensureAcyclic.2 0
      let first := Execution.begin failed.2.graph ()
      let (answer, x) := first.step acceptsAny linkActions
      (g.ensureAcyclic.1, first.stack, answer, x.stack, linkActions.actions (x.graph.name 0),
        x.graph.children 0)) =
      .ok (.ok (), [⟨0, [1]⟩], none, [⟨0, []⟩], ["ld"], [1]) := by
    cbv
  obtain ⟨g, built, seen⟩ := Graph.exists_of_build_map observed
  simp only [Prod.mk.injEq] at seen
  obtain ⟨accepted, first, goes, stacked, actions, children⟩ := seen
  obtain ⟨checks, calls, everywhere⟩ := session_intact built
  have failed := (checks g).trans (calls accepted refusesSecond linkActions g.ensureAcyclic.2 0)
  have resumed := failed.tail (.satisfy accepted acceptsAny linkActions _ ())
  have passed := resumed.tail (.visit first (Prod.ext goes rfl))
  have reached := passed.tail (.act stacked)
  rw [actions] at reached
  have intact := (everywhere _ reached).1
  obtain ⟨unmarked, done⟩ := intact.acting 0 rfl
  exact ⟨g, _, built, reached, intact, children, done 1 (children ▸ List.mem_cons_self), unmarked⟩

end TaskRunner
