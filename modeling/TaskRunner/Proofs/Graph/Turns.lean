import Mathlib.Algebra.GroupWithZero.Nat
import Mathlib.Algebra.Order.BigOperators.Group.List
import Mathlib.Algebra.Order.Group.Nat
import Mathlib.Data.List.Infix
import TaskRunner.Proofs.Graph.Marks

/-! Checks of a graph whose nodes carry marks already, whoever set them. Such a check can answer
anything, but it comes to an answer: it takes one turn for each child of the nodes that it puts on
its stack and one turn to leave each of them, and it puts there only what was unvisited, once. -/

namespace TaskRunner

inductive Visit.Moves : Visit → Visit → Prop
  | enter : Moves .unvisited .inProgress
  | leave : Moves .inProgress .done

namespace Graph

variable {store : Store} {root : String} {g : Graph} {s after : Search} {count : Nat}
  {pushed : List Nat}

def unvisitedNodes (g : Graph) : List Nat := (List.range g.size).filter (g.visit · = .unvisited)

/-- The turns that a search spends on these nodes: one for every child, and one to leave. -/
def turnsOn (g : Graph) (ids : List Nat) : Nat := (ids.map fun id => (g.children id).length + 1).sum

theorem turnsOn_append (g : Graph) (ids : List Nat) (id : Nat) :
    g.turnsOn (ids ++ [id]) = g.turnsOn ids + ((g.children id).length + 1) := by
  rw [turnsOn, List.map_append, List.sum_append]
  rfl

theorem turnsOn_le {ids others : List Nat} (distinct : ids.Nodup) (inside : ids ⊆ others) :
    g.turnsOn ids ≤ g.turnsOn others := by
  obtain ⟨same, permuted, part⟩ := List.subperm_of_subset distinct inside
  unfold turnsOn
  rw [← (permuted.map _).sum_eq]
  exact (part.map _).sum_le_sum fun _ _ => Nat.zero_le _

theorem mem_unvisitedNodes {id : Nat} (fresh : g.visit id = .unvisited) :
    id ∈ g.unvisitedNodes := by
  rw [unvisitedNodes, List.mem_filter, List.mem_range]
  exact ⟨lt_size_of_visit (by simp [fresh]), by simpa using fresh⟩

namespace Search

theorem visit_setVisit_cases {h : Graph} {node : Nat} (undone : h.visit node ≠ .done) (mark : Visit)
    (id : Nat) : (h.setVisit node mark).visit id = h.visit id ∨
      node = id ∧ (h.setVisit node mark).visit node = mark := by
  rw [visit_setVisit_of_open undone, visit_setVisit_of_open undone]
  by_cases same : node = id
  · exact .inr ⟨same, if_pos rfl⟩
  · exact .inl (if_neg same)

def added (s after : Search) : List Nat :=
  (after.stack.take (after.stack.length - s.stack.length)).map (·.node)

end Search

/-- Where a check of a graph stands after so many turns of its loop, and which nodes it has put on
its stack until then, one after the other. -/
inductive Turns (g : Graph) : Nat → List Nat → Search → Prop
  | start : Turns g 0 (g.search.stack.map (·.node)) g.search
  | turn {count : Nat} {pushed : List Nat} {s after : Search} (before : Turns g count pushed s)
      (stepped : s.step = (none, after)) : Turns g (count + 1) (pushed ++ s.added after) after

/-- The turns of a check that began at these marks. Every mark is told by what was put on the stack
and what is still there, and every turn is spent on a node that was put there. -/
structure Accounted (g : Graph) (count : Nat) (pushed : List Nat) (s : Search) : Prop where
  shape : s.graph.unmarked = g.unmarked
  fresh : ∀ id ∈ pushed, g.visit id = .unvisited
  once : pushed.Nodup
  path_sublist : s.path.Sublist pushed
  visit_eq : ∀ id, s.graph.visit id =
    if id ∈ s.path then .inProgress else if id ∈ pushed then .done else g.visit id
  rest_suffix : ∀ frame ∈ s.stack, frame.rest <:+ g.children frame.node
  turns : count + work s.stack = g.turnsOn pushed

namespace Accounted

theorem start (g : Graph) : Accounted g 0 (g.search.stack.map (·.node)) g.search := by
  unfold search
  by_cases fresh : g.visit g.root = .unvisited
  · rw [if_pos fresh]
    refine ⟨unmarked_setVisit .., ?_, List.nodup_singleton _, List.Sublist.refl _, fun id => ?_,
      ?_, ?_⟩
    · exact fun id member => List.mem_singleton.mp member ▸ fresh
    · show (g.setVisit g.root .inProgress).visit id = if id ∈ [g.root] then _ else _
      rw [Search.visit_setVisit_of_open (by simp [fresh])]
      by_cases same : g.root = id
      · simp [same]
      · simp [same, Ne.symm same]
    · intro frame member
      rw [List.mem_singleton.mp member, children_setVisit]
    · simp [work, turnsOn, children_setVisit]
  · rw [if_neg fresh]
    refine ⟨rfl, fun id member => ?_, .nil, .slnil, fun id => rfl, fun frame member => ?_, rfl⟩
    · exact absurd member List.not_mem_nil
    · exact absurd member List.not_mem_nil

theorem lt_size (kept : Accounted g count pushed s) {id : Nat} (member : id ∈ pushed) :
    id < g.size := lt_size_of_visit (by simp [kept.fresh id member])

theorem path_nodup (kept : Accounted g count pushed s) : s.path.Nodup :=
  kept.once.sublist kept.path_sublist

theorem top {h : Graph} {node : Nat} {rest : List Nat} {below : List Frame}
    (kept : Accounted g count pushed ⟨h, ⟨node, rest⟩ :: below⟩) :
    node ∈ pushed ∧ h.visit node = .inProgress := by
  have onPath : node ∈ Search.path ⟨h, ⟨node, rest⟩ :: below⟩ := by
    rw [Search.path_cons rfl]
    exact List.mem_append_right _ List.mem_cons_self
  exact ⟨kept.path_sublist.subset onPath, (kept.visit_eq node).trans (if_pos onPath)⟩

theorem not_mem_of_unvisited (kept : Accounted g count pushed s) {id : Nat}
    (unvisited : s.graph.visit id = .unvisited) : id ∉ pushed ∧ g.visit id = .unvisited := by
  have marks := kept.visit_eq id
  rw [unvisited] at marks
  have off : id ∉ s.path := by
    intro member
    rw [if_pos member] at marks
    cases marks
  have new : id ∉ pushed := by
    intro member
    rw [if_neg off, if_pos member] at marks
    cases marks
  rw [if_neg off, if_neg new] at marks
  exact ⟨new, marks.symm⟩

theorem visit_of_marked (kept : Accounted g count pushed s) {id : Nat}
    (marked : g.visit id ≠ .unvisited) : s.graph.visit id = g.visit id := by
  have never : id ∉ pushed := fun member => marked (kept.fresh id member)
  rw [kept.visit_eq, if_neg (fun member => never (kept.path_sublist.subset member)), if_neg never]

theorem leave {h : Graph} {node : Nat} {below : List Frame}
    (kept : Accounted g count pushed ⟨h, ⟨node, []⟩ :: below⟩) :
    Accounted g (count + 1) pushed ⟨h.setVisit node .done, below⟩ := by
  obtain ⟨put, current⟩ := kept.top
  obtain ⟨shape, fresh, once, path_sublist, visit_eq, rest_suffix, turns⟩ := kept
  rw [Search.path_cons rfl] at path_sublist visit_eq
  have left : node ∉ Search.path ⟨h, below⟩ := by
    have distinct := once.sublist path_sublist
    rw [← List.concat_eq_append, List.nodup_concat] at distinct
    exact distinct.1
  refine ⟨(unmarked_setVisit ..).trans shape, fresh, once,
    (List.sublist_append_left _ _).trans path_sublist, fun id => ?_,
    fun frame member => rest_suffix frame (List.mem_cons_of_mem _ member), ?_⟩
  · show (h.setVisit node .done).visit id = if id ∈ Search.path ⟨h, below⟩ then _ else _
    rw [Search.visit_setVisit_of_open (by simp [current])]
    by_cases same : node = id
    · rw [if_pos same, ← same, if_neg left, if_pos put]
    · rw [if_neg same, visit_eq]
      simp [Ne.symm same]
  · rw [← turns]
    simp only [work, List.length_nil]
    omega

theorem skip {h : Graph} {node child : Nat} {rest : List Nat} {below : List Frame}
    (kept : Accounted g count pushed ⟨h, ⟨node, child :: rest⟩ :: below⟩) :
    Accounted g (count + 1) pushed ⟨h, ⟨node, rest⟩ :: below⟩ := by
  obtain ⟨shape, fresh, once, path_sublist, visit_eq, rest_suffix, turns⟩ := kept
  obtain ⟨top, lower⟩ := List.forall_mem_cons.mp rest_suffix
  refine ⟨shape, fresh, once, path_sublist, visit_eq, List.forall_mem_cons.mpr ⟨?_, lower⟩, ?_⟩
  · exact (List.suffix_cons child rest).trans top
  · rw [← turns]
    simp only [work, List.length_cons]
    omega

theorem enter {h : Graph} {node child : Nat} {rest : List Nat} {below : List Frame}
    (kept : Accounted g count pushed ⟨h, ⟨node, child :: rest⟩ :: below⟩)
    (unvisited : h.visit child = .unvisited) :
    Accounted g (count + 1) (pushed ++ [child])
      ⟨h.setVisit child .inProgress, ⟨child, h.children child⟩ :: ⟨node, rest⟩ :: below⟩ := by
  -- What is unvisited was so from the start, so it was never put on the stack before.
  obtain ⟨new, fresh_child⟩ := kept.not_mem_of_unvisited unvisited
  obtain ⟨shape, fresh, once, path_sublist, visit_eq, rest_suffix, turns⟩ := kept
  have path : Search.path ⟨h.setVisit child .inProgress,
      ⟨child, h.children child⟩ :: ⟨node, rest⟩ :: below⟩ =
      Search.path ⟨h, ⟨node, child :: rest⟩ :: below⟩ ++ [child] := by
    rw [Search.path_cons rfl]
    rfl
  obtain ⟨top, lower⟩ := List.forall_mem_cons.mp rest_suffix
  refine ⟨(unmarked_setVisit ..).trans shape, ?_, ?_, ?_, fun id => ?_, ?_, ?_⟩
  · intro id member
    rcases List.mem_append.mp member with early | last
    · exact fresh id early
    · exact List.mem_singleton.mp last ▸ fresh_child
  · rw [← List.concat_eq_append, List.nodup_concat]
    exact ⟨new, once⟩
  · rw [path]
    exact path_sublist.append (List.Sublist.refl _)
  · rw [path]
    show (h.setVisit child .inProgress).visit id = _
    rw [Search.visit_setVisit_of_open (by simp [unvisited])]
    by_cases same : child = id
    · rw [if_pos same, if_pos (List.mem_append_right _ (List.mem_singleton.mpr same.symm))]
    · rw [if_neg same, visit_eq]
      simp [Ne.symm same]
  · refine List.forall_mem_cons.mpr ⟨?_, List.forall_mem_cons.mpr ⟨?_, lower⟩⟩
    · rw [children_of_shape shape]
    · exact (List.suffix_cons child rest).trans top
  · rw [turnsOn_append, ← turns, ← children_of_shape shape]
    simp only [work, List.length_cons]
    omega

theorem step (kept : Accounted g count pushed s) (stepped : s.step = (none, after)) :
    Accounted g (count + 1) (pushed ++ s.added after) after := by
  obtain ⟨h, stack⟩ := s
  rcases Search.step_cases stepped with
    ⟨node, below, stacked, rfl⟩ | ⟨node, child, rest, below, stacked, _, rfl⟩ |
    ⟨node, child, rest, below, stacked, unvisited, rfl⟩
  all_goals
    obtain rfl : stack = _ := stacked
  · have nothing : Search.added ⟨h, ⟨node, []⟩ :: below⟩ ⟨h.setVisit node .done, below⟩ = [] := by
      simp [Search.added]
    rw [nothing, List.append_nil]
    exact kept.leave
  · have nothing : Search.added ⟨h, ⟨node, child :: rest⟩ :: below⟩
        ⟨h, ⟨node, rest⟩ :: below⟩ = [] := by
      simp [Search.added]
    rw [nothing, List.append_nil]
    exact kept.skip
  · have top : Search.added ⟨h, ⟨node, child :: rest⟩ :: below⟩ ⟨h.setVisit child .inProgress,
        ⟨child, h.children child⟩ :: ⟨node, rest⟩ :: below⟩ = [child] := by
      simp [Search.added]
    rw [top]
    exact kept.enter unvisited

theorem moves (kept : Accounted g count pushed s) (stepped : s.step = (none, after)) (id : Nat) :
    after.graph.visit id = s.graph.visit id ∨
      g.visit id = .unvisited ∧ Visit.Moves (s.graph.visit id) (after.graph.visit id) := by
  obtain ⟨h, stack⟩ := s
  rcases Search.step_cases stepped with
    ⟨node, below, stacked, rfl⟩ | ⟨node, child, rest, below, stacked, _, rfl⟩ |
    ⟨node, child, rest, below, stacked, unvisited, rfl⟩
  all_goals
    obtain rfl : stack = _ := stacked
  · obtain ⟨put, current⟩ := kept.top
    rcases Search.visit_setVisit_cases (show h.visit node ≠ .done by simp [current]) .done id with
      same | ⟨rfl, left⟩
    · exact .inl same
    · exact .inr ⟨kept.fresh _ put, current.symm ▸ left.symm ▸ .leave⟩
  · exact .inl rfl
  · have new := (kept.not_mem_of_unvisited unvisited).2
    rcases Search.visit_setVisit_cases (show h.visit child ≠ .done by simp [unvisited])
        .inProgress id with same | ⟨rfl, entered⟩
    · exact .inl same
    · exact .inr ⟨new, unvisited.symm ▸ entered.symm ▸ .enter⟩

end Accounted

theorem Turns.accounted (turns : Turns g count pushed s) : Accounted g count pushed s := by
  induction turns with
  | start => exact .start g
  | turn _ stepped ih => exact ih.step stepped

theorem turns_ensureAcyclic (g : Graph) : ∃ count pushed s, Turns g count pushed s ∧
    s.step = (some g.ensureAcyclic.1, s) ∧ g.ensureAcyclic.2 = s.graph := by
  have next (s after : Search) (reached : ∃ count pushed, Turns g count pushed s)
      (stepped : s.step = (none, after)) : ∃ count pushed, Turns g count pushed after := by
    obtain ⟨_, _, turns⟩ := reached
    exact ⟨_, _, turns.turn stepped⟩
  obtain ⟨⟨count, pushed, turns⟩, answered⟩ := Search.run_induction next ⟨_, _, .start⟩
  exact ⟨count, pushed, _, turns, answered, rfl⟩

/-- What holds at every turn of a check, whatever marks it found. -/
structure Orderly (g : Graph) (count : Nat) (pushed : List Nat) (s : Search) : Prop where
  count_le : count ≤ g.turnsOn g.unvisitedNodes
  once : pushed.Nodup
  fresh : ∀ id ∈ pushed, g.visit id = .unvisited
  distinct : (s.stack.map (·.node)).Nodup
  inside : ∀ frame ∈ s.stack, frame.node < g.size ∧ ∀ child ∈ frame.rest, child < g.size
  stays : ∀ id, g.visit id ≠ .unvisited → s.graph.visit id = g.visit id
  moves : ∀ after, s.step = (none, after) → ∀ id, after.graph.visit id = s.graph.visit id ∨
    g.visit id = .unvisited ∧ Visit.Moves (s.graph.visit id) (after.graph.visit id)

theorem Accounted.orderly (kept : Accounted g count pushed s) (closed : Closure store root g) :
    Orderly g count pushed s := by
  have spent := kept.turns
  have enough : g.turnsOn pushed ≤ g.turnsOn g.unvisitedNodes :=
    turnsOn_le kept.once fun id member => mem_unvisitedNodes (kept.fresh id member)
  refine ⟨by omega, kept.once, kept.fresh, List.nodup_reverse.mp kept.path_nodup,
    fun frame member => ⟨?_, fun child later => ?_⟩, fun id => kept.visit_of_marked,
    fun after => kept.moves⟩
  · have onPath : frame.node ∈ s.path := List.mem_reverse.mpr (List.mem_map_of_mem member)
    exact kept.lt_size (kept.path_sublist.subset onPath)
  · exact closed.lt_size_of_edge ((kept.rest_suffix frame member).subset later)

/-- A check of a graph that was built comes to its answer from any marks, and soon: it takes no more
turns than the unvisited nodes and their children allow. On its way it puts no node on its stack
twice, and none that carried a mark. Such a node keeps its mark, and all others go from unvisited to
in progress to done. -/
theorem ensureAcyclic_ends (built : build root store = .ok g) (visits : Nat → Visit)
    (satisfied : Nat → Bool) :
    let marked := (g.withSatisfied satisfied).withVisits visits
    (∃ count pushed s, Turns marked count pushed s ∧ s.step = (some marked.ensureAcyclic.1, s) ∧
      marked.ensureAcyclic.2 = s.graph) ∧
    ∀ count pushed s, Turns marked count pushed s → Orderly marked count pushed s := by
  intro marked
  have shape : marked.unmarked = g.unmarked :=
    (unmarked_withVisits ..).trans (unmarked_withSatisfied ..)
  have closed := (closure_of_build built).of_shape shape.symm
  exact ⟨turns_ensureAcyclic marked, fun _ _ _ turns => turns.accounted.orderly closed⟩

/-- A node on the loop below the root was marked by hand. The check takes it for a node that it has
entered itself, and shows a way to it that is no loop. -/
theorem ensureAcyclic_ends_at_mark :
    ∃ g, build "top" loopBelowRoot = .ok g ∧
      let marked := (g.withSatisfied fun _ => false).withVisits
        fun id => if id = 2 then .inProgress else .unvisited
      marked.ensureAcyclic.1 = .error (.circularDependency ["top", "x", "y"]) ∧
      marked.turnsOn marked.unvisitedNodes = 5 ∧
      ∃ count pushed s, Turns marked count pushed s ∧ Orderly marked count pushed s ∧
        s.graph.visit 2 = .inProgress := by
  have seen : (build "top" loopBelowRoot).map (fun g =>
      let marked := (g.withSatisfied fun _ => false).withVisits
        fun id => if id = 2 then .inProgress else .unvisited
      (marked.ensureAcyclic.1, marked.turnsOn marked.unvisitedNodes, marked.visit 2)) =
        .ok (.error (.circularDependency ["top", "x", "y"]), 5, .inProgress) := by cbv
  obtain ⟨g, built, observed⟩ := exists_of_build_map seen
  simp only [Prod.mk.injEq] at observed
  obtain ⟨refused, bound, mark⟩ := observed
  obtain ⟨⟨count, pushed, s, turns, _, _⟩, always⟩ := ensureAcyclic_ends built
    (fun id => if id = 2 then .inProgress else .unvisited) fun _ => false
  have orderly := always count pushed s turns
  exact ⟨g, built, refused, bound, count, pushed, s, turns, orderly,
    (orderly.stays 2 (by rw [mark]; decide)).trans mark⟩

end Graph
end TaskRunner
