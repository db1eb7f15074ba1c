import TaskRunner.Graph.Cycle
import TaskRunner.Proofs.Graph.Edges

/-! What holds between the steps of the search for cycles. The nodes in progress are those on the
stack, and each of them is a child of the one below it; all that was left behind is done, and
nothing that is done lies on a loop. -/

namespace TaskRunner.Graph
open Relation

namespace Search

/-- What a step does that does not answer: it leaves a node whose children are all looked at, passes
over a child that is done, or enters a child that is unvisited. -/
theorem step_cases {s after : Search} (stepped : s.step = (none, after)) :
    (∃ node below, s.stack = ⟨node, []⟩ :: below ∧
      after = ⟨s.graph.setVisit node .done, below⟩) ∨
    (∃ node child rest below, s.stack = ⟨node, child :: rest⟩ :: below ∧
      s.graph.visit child = .done ∧ after = ⟨s.graph, ⟨node, rest⟩ :: below⟩) ∨
    ∃ node child rest below, s.stack = ⟨node, child :: rest⟩ :: below ∧
      s.graph.visit child = .unvisited ∧
      after = ⟨s.graph.setVisit child .inProgress,
        ⟨child, s.graph.children child⟩ :: ⟨node, rest⟩ :: below⟩ := by
  unfold step at stepped
  split at stepped
  next => cases stepped
  next node below stacked =>
    cases stepped
    exact .inl ⟨node, below, stacked, rfl⟩
  next node child rest below stacked =>
    split at stepped
    next finished =>
      cases stepped
      exact .inr (.inl ⟨node, child, rest, below, stacked, finished, rfl⟩)
    next => cases stepped
    next fresh =>
      cases stepped
      refine .inr (.inr ⟨node, child, rest, below, stacked, fresh, ?_⟩)
      rw [children_setVisit]

theorem step_answer {s after : Search} {answer : Except GraphError Unit}
    (stepped : s.step = (some answer, after)) :
    after = s ∧ (s.stack = [] ∧ answer = .ok () ∨
      ∃ node child rest below, s.stack = ⟨node, child :: rest⟩ :: below ∧
        s.graph.visit child = .inProgress ∧
        answer = .error (.circularDependency (s.cycle child))) := by
  unfold step at stepped
  split at stepped
  next stacked =>
    cases stepped
    exact ⟨rfl, .inl ⟨stacked, rfl⟩⟩
  next => cases stepped
  next node child rest below stacked =>
    split at stepped
    next => cases stepped
    next entered =>
      cases stepped
      exact ⟨rfl, .inr ⟨node, child, rest, below, stacked, entered, rfl⟩⟩
    next => cases stepped

theorem run_induction {holds : Search → Prop}
    (kept : ∀ s after, holds s → s.step = (none, after) → holds after) {s : Search}
    (start : holds s) : holds s.run.2 ∧ s.run.2.step = (some s.run.1, s.run.2) := by
  fun_induction run s with
  | case1 s after stepped ih => exact ih (kept s after start stepped)
  | case2 s answer after stepped =>
    obtain ⟨rfl, _⟩ := step_answer stepped
    exact ⟨start, stepped⟩

theorem unmarked_step {s after : Search} (stepped : s.step = (none, after)) :
    after.graph.unmarked = s.graph.unmarked := by
  rcases step_cases stepped with ⟨_, _, _, rfl⟩ | ⟨_, _, _, _, _, _, rfl⟩ | ⟨_, _, _, _, _, _, rfl⟩
  · exact unmarked_setVisit ..
  · rfl
  · exact unmarked_setVisit ..

theorem unmarked_run (s : Search) : s.run.2.graph.unmarked = s.graph.unmarked :=
  (run_induction (fun _ _ same stepped => (unmarked_step stepped).trans same)
    (Eq.refl s.graph.unmarked)).1

theorem satisfied_step {s after : Search} (stepped : s.step = (none, after)) (id : Nat) :
    after.graph.satisfied id = s.graph.satisfied id := by
  rcases step_cases stepped with ⟨_, _, _, rfl⟩ | ⟨_, _, _, _, _, _, rfl⟩ | ⟨_, _, _, _, _, _, rfl⟩
  · exact satisfied_setVisit ..
  · rfl
  · exact satisfied_setVisit ..

theorem satisfied_run (s : Search) (id : Nat) :
    s.run.2.graph.satisfied id = s.graph.satisfied id :=
  (run_induction (fun _ _ same stepped => (satisfied_step stepped id).trans same)
    (Eq.refl (s.graph.satisfied id))).1

/-- Every frame has looked at the first of its children. They are done, all but the one that the
frame above it stands for. -/
def Looked (g : Graph) : Option Nat → List Frame → Prop
  | _, [] => True
  | above, frame :: below =>
    (∃ seen, g.children frame.node = seen ++ frame.rest ∧
      (∀ child ∈ seen, g.visit child = .done ∨ above = some child) ∧
      ∀ child, above = some child → child ∈ seen) ∧
    Looked g (some frame.node) below

theorem Looked.mono {g h : Graph} {above : Option Nat} {stack : List Frame}
    (children : ∀ id, h.children id = g.children id)
    (done : ∀ id, g.visit id = .done → h.visit id = .done) (looked : Looked g above stack) :
    Looked h above stack := by
  induction stack generalizing above with
  | nil => trivial
  | cons frame below ih =>
    obtain ⟨⟨seen, split, finished, highest⟩, rest⟩ := looked
    refine ⟨⟨seen, (children _).trans split, fun child member => ?_, highest⟩, ih rest⟩
    exact (finished child member).imp_left (done child)

/-- Once the node above is done, nothing of what a frame has looked at is under way. -/
theorem Looked.left {g : Graph} {node : Nat} {stack : List Frame} (done : g.visit node = .done)
    (looked : Looked g (some node) stack) : Looked g none stack := by
  cases stack with
  | nil => trivial
  | cons frame below =>
    obtain ⟨⟨seen, split, finished, _⟩, rest⟩ := looked
    refine ⟨⟨seen, split, fun child member => .inl ?_, fun _ impossible => nomatch impossible⟩,
      rest⟩
    rcases finished child member with done' | same
    · exact done'
    · exact Option.some.inj same ▸ done

theorem Looked.chain {g : Graph} {above : Option Nat} {stack : List Frame}
    (looked : Looked g above stack) :
    (stack.map (·.node)).IsChain (fun upper lower => g.Edge lower upper) := by
  induction stack generalizing above with
  | nil => exact .nil
  | cons frame below ih =>
    obtain ⟨_, rest⟩ := looked
    cases below with
    | nil => exact .singleton _
    | cons lower below =>
      have edge : g.Edge lower.node frame.node := by
        obtain ⟨⟨seen, split, _, highest⟩, _⟩ := rest
        rw [Edge, split]
        exact List.mem_append_left _ (highest frame.node rfl)
      exact .cons_cons edge (ih rest)

/-- What the steps of a search keep that began on a graph without marks. -/
structure Invariant (s : Search) : Prop where
  entered : ∀ id, s.graph.visit id = .inProgress ↔ id ∈ s.stack.map (·.node)
  distinct : (s.stack.map (·.node)).Nodup
  looked : Looked s.graph none s.stack
  closed : ∀ id, s.graph.visit id = .done →
    ∀ child, s.graph.Edge id child → s.graph.visit child = .done
  clear : ∀ id, s.graph.visit id = .done → ¬ TransGen s.graph.Edge id id
  marked : s.graph.visit s.graph.root ≠ .unvisited

theorem Invariant.done_of_path {s : Search} (kept : s.Invariant) {id other : Nat}
    (done : s.graph.visit id = .done) (path : ReflTransGen s.graph.Edge id other) :
    s.graph.visit other = .done := by
  induction path with
  | refl => exact done
  | tail _ edge ih => exact kept.closed _ ih _ edge

theorem visit_setVisit_of_open {g : Graph} {id : Nat} (undone : g.visit id ≠ .done) (visit : Visit)
    (other : Nat) :
    (g.setVisit id visit).visit other = if id = other then visit else g.visit other := by
  rw [visit_setVisit]
  by_cases same : id = other
  · rw [if_pos same, if_pos ⟨same, same ▸ lt_size_of_visit undone⟩]
  · rw [if_neg same, if_neg (fun both => same both.1)]

theorem Invariant.leave {g : Graph} {node : Nat} {below : List Frame}
    (kept : Invariant ⟨g, ⟨node, []⟩ :: below⟩) : Invariant ⟨g.setVisit node .done, below⟩ := by
  have current : g.visit node = .inProgress := (kept.entered node).mpr List.mem_cons_self
  have marks := visit_setVisit_of_open (show g.visit node ≠ .done by simp [current]) .done
  have edges : (g.setVisit node .done).Edge = g.Edge :=
    edge_of_shape (unmarked_setVisit g node .done)
  have absent : node ∉ below.map (·.node) := (List.nodup_cons.mp kept.distinct).1
  obtain ⟨⟨seen, split, finished, _⟩, rest⟩ := kept.looked
  have children_done : ∀ child, g.Edge node child → g.visit child = .done := by
    intro child edge
    rw [Edge, split, List.append_nil] at edge
    exact (finished child edge).resolve_right (by simp)
  have stays : ∀ id, g.visit id = .done → (g.setVisit node .done).visit id = .done := by
    intro id done
    rw [marks]
    split
    · rfl
    · exact done
  refine ⟨fun id => ?_, (List.nodup_cons.mp kept.distinct).2, ?_, ?_, ?_, ?_⟩
  · have old := kept.entered id
    rw [List.map_cons, List.mem_cons] at old
    show (g.setVisit node .done).visit id = .inProgress ↔ _
    rw [marks]
    by_cases same : node = id
    · subst same
      simp [absent]
    · rw [if_neg same, old]
      exact or_iff_right (Ne.symm same)
  · exact (rest.mono (children_setVisit g node .done) stays).left (by rw [marks, if_pos rfl])
  · intro id done child edge
    rw [edges] at edge
    apply stays
    rw [marks] at done
    split at done
    next same => exact children_done child (same ▸ edge)
    next => exact kept.closed id done child edge
  · intro id done
    rw [edges]
    rw [marks] at done
    split at done
    next same =>
      subst same
      intro loop
      -- A loop goes on from a child, and all that a child leads to is done; this node was not.
      obtain ⟨child, edge, path⟩ := TransGen.head'_iff.mp loop
      have done' : g.visit node = .done := kept.done_of_path (children_done child edge) path
      simp [current] at done'
    next => exact kept.clear id done
  · show (g.setVisit node .done).visit g.root ≠ .unvisited
    rw [marks]
    split
    · simp
    · exact kept.marked

theorem Invariant.skip {g : Graph} {node child : Nat} {rest : List Nat} {below : List Frame}
    (kept : Invariant ⟨g, ⟨node, child :: rest⟩ :: below⟩) (done : g.visit child = .done) :
    Invariant ⟨g, ⟨node, rest⟩ :: below⟩ := by
  obtain ⟨⟨seen, split, finished, _⟩, lower⟩ := kept.looked
  refine ⟨kept.entered, kept.distinct,
    ⟨⟨seen ++ [child], ?_, ?_, fun _ impossible => nomatch impossible⟩, lower⟩,
    kept.closed, kept.clear, kept.marked⟩
  · rw [split, List.append_assoc]
    rfl
  · intro other member
    rcases List.mem_append.mp member with before | last
    · exact finished other before
    · exact .inl (List.mem_singleton.mp last ▸ done)

theorem Invariant.enter {g : Graph} {node child : Nat} {rest : List Nat} {below : List Frame}
    (kept : Invariant ⟨g, ⟨node, child :: rest⟩ :: below⟩) (fresh : g.visit child = .unvisited) :
    Invariant ⟨g.setVisit child .inProgress,
      ⟨child, g.children child⟩ :: ⟨node, rest⟩ :: below⟩ := by
  have marks := visit_setVisit_of_open (show g.visit child ≠ .done by simp [fresh])
    .inProgress
  have edges : (g.setVisit child .inProgress).Edge = g.Edge :=
    edge_of_shape (unmarked_setVisit g child .inProgress)
  have children := children_setVisit g child .inProgress
  have absent : child ∉ (⟨node, child :: rest⟩ :: below : List Frame).map (·.node) := by
    intro member
    have entered := (kept.entered child).mpr member
    simp [fresh] at entered
  have stays : ∀ id, g.visit id = .done → (g.setVisit child .inProgress).visit id = .done := by
    intro id done
    rw [marks, if_neg]
    · exact done
    · rintro rfl
      simp [fresh] at done
  have was_done : ∀ id, (g.setVisit child .inProgress).visit id = .done → g.visit id = .done := by
    intro id done
    rw [marks] at done
    split at done
    · cases done
    · exact done
  obtain ⟨⟨seen, split, finished, _⟩, lower⟩ := kept.looked
  refine ⟨fun id => ?_, List.nodup_cons.mpr ⟨absent, kept.distinct⟩,
    ⟨⟨[], children child, by simp, fun _ impossible => nomatch impossible⟩,
      ⟨seen ++ [child], ?_, ?_, ?_⟩, lower.mono children stays⟩, ?_, ?_, ?_⟩
  · have old := kept.entered id
    show (g.setVisit child .inProgress).visit id = .inProgress ↔ _
    rw [marks, List.map_cons, List.mem_cons]
    by_cases same : child = id
    · simp [same]
    · rw [if_neg same, old]
      exact (or_iff_right (Ne.symm same)).symm
  · rw [children, split, List.append_assoc]
    rfl
  · intro other member
    rcases List.mem_append.mp member with before | last
    · exact .inl (stays other ((finished other before).resolve_right (by simp)))
    · exact .inr (congrArg some (List.mem_singleton.mp last).symm)
  · intro other same
    exact List.mem_append_right _ (List.mem_singleton.mpr (Option.some.inj same).symm)
  · intro id done other edge
    rw [edges] at edge
    exact stays other (kept.closed id (was_done id done) other edge)
  · intro id done
    rw [edges]
    exact kept.clear id (was_done id done)
  · show (g.setVisit child .inProgress).visit g.root ≠ .unvisited
    rw [marks]
    split
    · simp
    · exact kept.marked

theorem Invariant.step {s after : Search} (kept : s.Invariant) (stepped : s.step = (none, after)) :
    after.Invariant := by
  obtain ⟨g, stack⟩ := s
  rcases step_cases stepped with
    ⟨node, below, stacked, rfl⟩ | ⟨node, child, rest, below, stacked, done, rfl⟩ |
    ⟨node, child, rest, below, stacked, fresh, rfl⟩
  all_goals
    obtain rfl : stack = _ := stacked
  · exact kept.leave
  · exact kept.skip done
  · exact kept.enter fresh

end Search
end TaskRunner.Graph
