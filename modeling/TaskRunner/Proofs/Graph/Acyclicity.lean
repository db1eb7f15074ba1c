import Mathlib.Data.List.Chain
import TaskRunner.Proofs.Graph.Search

/-! The search for cycles is exact: it accepts a closure just if no task that the root reaches
depends on itself, and otherwise it shows a loop of declared dependencies below the root. -/

namespace TaskRunner

/-- Names that lead back to the first of them, each depending on the next, none twice but the one
that closes the loop. -/
structure DependencyMap.Loop (m : DependencyMap) (names : List String) : Prop where
  two_le_length : 2 ≤ names.length
  closed : names.head? = names.getLast?
  linked : names.IsChain m.Depends
  distinct : names.dropLast.Nodup

theorem DependencyMap.Loop.circular {m : DependencyMap} {names : List String}
    (loop : m.Loop names) : ∃ task ∈ names, m.Circular task := by
  obtain ⟨long, closed, linked, _⟩ := loop
  match names, long with
  | first :: second :: rest, _ =>
    obtain ⟨depends, later⟩ := List.isChain_cons_cons.mp linked
    have last : (second :: rest).getLast (List.cons_ne_nil _ _) = first := by
      rw [List.getLast?_cons_cons, List.getLast?_eq_some_getLast (List.cons_ne_nil _ _)] at closed
      exact (Option.some.inj closed).symm
    have path := List.relationReflTransGen_of_exists_isChain_cons rest later last
    exact ⟨first, List.mem_cons_self, .head' depends path⟩

namespace Graph
open Relation DependencyMap

variable {store : Store} {root : String} {g : Graph}

namespace Search

theorem visit_enterRoot (fresh : g.unmarked = g) (inside : g.root < g.size) (id : Nat) :
    (g.setVisit g.root .inProgress).visit id =
      if g.root = id then .inProgress else if id < g.size then .unvisited else .done := by
  rw [visit_setVisit_of_open (show g.visit g.root ≠ .done by simp [visit_of_unmarked fresh inside])]
  by_cases within : id < g.size
  · rw [visit_of_unmarked fresh within, if_pos within]
  · have done : g.visit id = .done := by
      by_contra undone
      exact within (lt_size_of_visit undone)
    rw [done, if_neg within]

theorem Invariant.start (closed : Closure store root g) (fresh : g.unmarked = g) :
    Invariant g.search := by
  have inside : g.root < g.size := by rw [closed.root_eq]; exact closed.size_pos
  have marks := visit_enterRoot fresh inside
  have edgeless : ∀ id child, (g.setVisit g.root .inProgress).visit id = .done →
      ¬ (g.setVisit g.root .inProgress).Edge id child := by
    intro id child done edge
    rw [Edge, children_setVisit] at edge
    rw [marks, if_pos (lt_size_of_mem_children edge)] at done
    split at done <;> cases done
  rw [search, if_pos (visit_of_unmarked fresh inside)]
  refine ⟨fun id => ?_, List.nodup_singleton _,
    ⟨⟨[], rfl, by simp, fun _ impossible => absurd impossible (by simp)⟩, trivial⟩, ?_, ?_, ?_⟩
  · show (g.setVisit g.root .inProgress).visit id = .inProgress ↔ id ∈ [g.root]
    rw [marks, List.mem_singleton]
    by_cases same : g.root = id
    · simp [same]
    · rw [if_neg same]
      split <;> simp [Ne.symm same]
  · exact fun id done child edge => absurd edge (edgeless id child done)
  · intro id done loop
    obtain ⟨child, edge, _⟩ := TransGen.head'_iff.mp loop
    exact edgeless id child done edge
  · show (g.setVisit g.root .inProgress).visit g.root ≠ .unvisited
    rw [marks, if_pos rfl]
    simp

theorem Invariant.all_done {s : Search} (kept : s.Invariant) (closed : Closure store root s.graph)
    (empty : s.stack = []) {id : Nat} (inside : id < s.graph.size) : s.graph.visit id = .done := by
  have root_done : s.graph.visit s.graph.root = .done := by
    cases marked : s.graph.visit s.graph.root with
    | unvisited => exact absurd marked kept.marked
    | inProgress =>
      have member := (kept.entered _).mp marked
      rw [empty] at member
      exact absurd member List.not_mem_nil
    | done => rfl
  have path := closed.path_from_root inside
  rw [← closed.root_eq] at path
  exact kept.done_of_path root_done path

theorem Invariant.acyclic {s : Search} (kept : s.Invariant) (closed : Closure store root s.graph)
    (empty : s.stack = []) : s.graph.Acyclic := by
  intro id loop
  obtain ⟨child, edge, _⟩ := TransGen.head'_iff.mp loop
  exact kept.clear id (kept.all_done closed empty (lt_size_of_mem_children edge)) loop

theorem Invariant.chain_path {s : Search} (kept : s.Invariant) {node child : Nat} {rest : List Nat}
    {below : List Frame} (stacked : s.stack = ⟨node, child :: rest⟩ :: below) :
    (s.path ++ [child]).IsChain s.graph.Edge := by
  have chain : s.path.IsChain s.graph.Edge := List.isChain_reverse.mpr kept.looked.chain
  have edge : s.graph.Edge node child := by
    have looked := kept.looked
    rw [stacked] at looked
    obtain ⟨⟨seen, split, _, _⟩, _⟩ := looked
    rw [Edge, split]
    exact List.mem_append_right _ List.mem_cons_self
  apply List.IsChain.append chain (.singleton _)
  intro last isLast next isNext
  rw [path, stacked, List.map_cons, List.reverse_cons, List.getLast?_concat] at isLast
  cases isLast
  cases isNext
  exact edge

/-- A child in progress is on the path, and the path from it on is closed by it. -/
theorem Invariant.cycle_eq {s : Search} (kept : s.Invariant) {child : Nat}
    (entered : s.graph.visit child = .inProgress) :
    ∃ before after, s.path = before ++ child :: after ∧
      s.cycle child = (child :: after ++ [child]).map s.graph.name := by
  have member : child ∈ s.path := List.mem_reverse.mpr ((kept.entered child).mp entered)
  obtain ⟨before, after, split, absent⟩ := List.eq_append_cons_of_mem member
  refine ⟨before, after, split, ?_⟩
  -- The path from the child on is what the child closes.
  have skipped : s.path.dropWhile (· ≠ child) = child :: after := by
    rw [split, List.dropWhile_append_of_pos, List.dropWhile_cons_of_neg (by simp)]
    intro other early
    simp only [ne_eq, decide_not, Bool.not_eq_eq_eq_not, Bool.not_true, decide_eq_false_iff_not]
    exact fun same => absent (same ▸ early)
  rw [cycle, if_pos member, skipped]

theorem Invariant.lt_size_of_mem_path {s : Search} (kept : s.Invariant) {id : Nat}
    (member : id ∈ s.path) : id < s.graph.size := by
  have entered := (kept.entered id).mpr (List.mem_reverse.mp member)
  exact lt_size_of_visit (by simp [entered])

theorem Invariant.loop {s : Search} (kept : s.Invariant) (closed : Closure store root s.graph)
    {node child : Nat} {rest : List Nat} {below : List Frame}
    (stacked : s.stack = ⟨node, child :: rest⟩ :: below)
    (entered : s.graph.visit child = .inProgress) :
    store.dependencyMap.Loop (s.cycle child) ∧
      ∀ name ∈ s.cycle child, store.dependencyMap.Reaches root name := by
  obtain ⟨before, after, split, cycle⟩ := kept.cycle_eq entered
  have chain := kept.chain_path stacked
  rw [split, List.append_assoc] at chain
  have inside : ∀ id ∈ child :: after, id < s.graph.size := fun id member =>
    kept.lt_size_of_mem_path (split ▸ List.mem_append_right _ member)
  rw [cycle]
  refine ⟨⟨by simp, ?_, ?_, ?_⟩, ?_⟩
  · rw [List.map_append, List.map_singleton, List.getLast?_concat]
    rfl
  · exact List.isChain_map_of_isChain s.graph.name (fun _ _ edge => closed.depends_of_edge edge)
      (chain.suffix (List.suffix_append before _))
  · rw [List.map_append, List.map_singleton, List.dropLast_concat]
    have distinct : (child :: after).Nodup := by
      have all := List.nodup_reverse.mpr kept.distinct
      change s.path.Nodup at all
      rw [split] at all
      exact (List.nodup_append.mp all).2.1
    exact distinct.map_on fun first member second member' same =>
      closed.name_injective (inside first member) (inside second member') same
  · intro name member
    obtain ⟨id, member', rfl⟩ := List.mem_map.mp member
    apply closed.reached id
    rcases List.mem_append.mp member' with early | last
    · exact inside id early
    · exact List.mem_singleton.mp last ▸ inside child List.mem_cons_self

end Search

theorem unmarked_search (g : Graph) : g.search.graph.unmarked = g.unmarked := by
  unfold search
  split
  · exact unmarked_setVisit ..
  · rfl

theorem satisfied_search (g : Graph) (id : Nat) :
    g.search.graph.satisfied id = g.satisfied id := by
  unfold search
  split
  · exact satisfied_setVisit ..
  · rfl

theorem unmarked_ensureAcyclic (g : Graph) : g.ensureAcyclic.2.unmarked = g.unmarked :=
  (Search.unmarked_run g.search).trans g.unmarked_search

theorem satisfied_ensureAcyclic (g : Graph) (id : Nat) :
    g.ensureAcyclic.2.satisfied id = g.satisfied id :=
  (Search.satisfied_run g.search id).trans (g.satisfied_search id)

theorem ensureAcyclic_cases (closed : Closure store root g) (fresh : g.unmarked = g) :
    g.ensureAcyclic.1 = .ok () ∧ g.Acyclic ∨
      ∃ cycle, g.ensureAcyclic.1 = .error (.circularDependency cycle) ∧
        store.dependencyMap.Loop cycle ∧ ∀ name ∈ cycle, store.dependencyMap.Reaches root name := by
  obtain ⟨kept, answered⟩ := Search.run_induction (fun _ _ => Search.Invariant.step)
    (Search.Invariant.start closed fresh)
  have shape : g.unmarked = g.search.run.2.graph.unmarked := (unmarked_ensureAcyclic g).symm
  have closed' := closed.of_shape shape
  rcases (Search.step_answer answered).2 with
    ⟨empty, accepted⟩ | ⟨node, child, rest, below, stacked, entered, refused⟩
  · exact .inl ⟨accepted, (acyclic_of_shape shape).mpr (kept.acyclic closed' empty)⟩
  · exact .inr ⟨_, refused, kept.loop closed' stacked entered⟩

theorem closure_of_checked (built : build root store = .ok g) :
    Closure store root g.ensureAcyclic.2 :=
  (closure_of_build built).of_shape (unmarked_ensureAcyclic g).symm

theorem acyclic_of_accepted (built : build root store = .ok g)
    (accepted : g.ensureAcyclic.1 = .ok ()) : g.ensureAcyclic.2.Acyclic := by
  rcases ensureAcyclic_cases (closure_of_build built) (unmarked_of_build built) with
    ⟨_, acyclic⟩ | ⟨_, refused, _⟩
  · exact (acyclic_of_shape (unmarked_ensureAcyclic g)).mpr acyclic
  · cases accepted.symm.trans refused

theorem fresh_ensureAcyclic (built : build root store = .ok g) (id : Nat)
    (inside : id < g.ensureAcyclic.2.size) : g.ensureAcyclic.2.satisfied id = false := by
  rw [satisfied_ensureAcyclic]
  apply satisfied_of_unmarked (unmarked_of_build built)
  rwa [← size_of_shape (unmarked_ensureAcyclic g)]

theorem ensureAcyclic_ok_iff (built : build root store = .ok g) :
    g.ensureAcyclic.1 = .ok () ↔ ¬ store.dependencyMap.Loops root := by
  rcases ensureAcyclic_cases (closure_of_build built) (unmarked_of_build built) with
    ⟨accepted, acyclic⟩ | ⟨cycle, refused, loop, reached⟩
  · refine iff_of_true accepted ?_
    rintro ⟨task, reached, circular⟩
    exact (closure_of_build built).acyclic_iff.mp acyclic task reached circular
  · obtain ⟨task, member, circular⟩ := loop.circular
    rw [refused]
    exact iff_of_false nofun (not_not_intro ⟨task, reached task member, circular⟩)

/-- The check accepts a graph that was just built if and only if no task that the root reaches
depends on itself. Otherwise the answer is a loop of tasks that the root reaches. -/
theorem ensureAcyclic_exact (built : build root store = .ok g) :
    (g.ensureAcyclic.1 = .ok () ↔ ¬ ∃ task, store.dependencyMap.Reaches root task ∧
        store.dependencyMap.Circular task) ∧
      ∀ e, g.ensureAcyclic.1 = .error e → ∃ cycle, e = .circularDependency cycle ∧
        store.dependencyMap.Loop cycle ∧
        ∀ name ∈ cycle, store.dependencyMap.Reaches root name := by
  have closed := closure_of_build built
  rcases ensureAcyclic_cases closed (unmarked_of_build built) with
    ⟨accepted, acyclic⟩ | ⟨cycle, refused, loop, reached⟩
  · rw [accepted]
    refine ⟨⟨fun _ => ?_, fun _ => rfl⟩, fun e impossible => nomatch impossible⟩
    rintro ⟨task, reached, circular⟩
    exact closed.acyclic_iff.mp acyclic task reached circular
  · rw [refused]
    obtain ⟨task, member, circular⟩ := loop.circular
    refine ⟨⟨fun impossible => (nomatch impossible), fun clear => ?_⟩, ?_⟩
    · exact absurd ⟨task, reached task member, circular⟩ clear
    · intro e answered
      cases answered
      exact ⟨cycle, rfl, loop, reached⟩

def loopBelowRoot : Store :=
  .ofDeclarations [⟨"top", ["x"]⟩, ⟨"x", ["y", "y"]⟩, ⟨"y", ["x"]⟩]

theorem ensureAcyclic_exact_below_root :
    ∃ g, build "top" loopBelowRoot = .ok g ∧
      g.ensureAcyclic.1 = .error (.circularDependency ["x", "y", "x"]) ∧
      loopBelowRoot.dependencyMap.Loop ["x", "y", "x"] ∧
      ∃ task, loopBelowRoot.dependencyMap.Reaches "top" task ∧
        loopBelowRoot.dependencyMap.Circular task := by
  have answered : (build "top" loopBelowRoot).map (·.ensureAcyclic.1) =
      .ok (.error (.circularDependency ["x", "y", "x"])) := by cbv
  cases built : build "top" loopBelowRoot with
  | error e => simp [built, Except.map] at answered
  | ok g =>
    have refused : g.ensureAcyclic.1 = .error (.circularDependency ["x", "y", "x"]) := by
      simpa [built, Except.map] using answered
    obtain ⟨accepts, shows⟩ := ensureAcyclic_exact built
    obtain ⟨cycle, same, loop, _⟩ := shows _ refused
    cases same
    refine ⟨g, rfl, refused, loop, ?_⟩
    by_contra clear
    rw [accepts.mpr clear] at refused
    cases refused

end Graph
end TaskRunner
