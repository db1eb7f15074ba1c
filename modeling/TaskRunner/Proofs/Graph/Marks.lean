import Mathlib.Data.List.Permutation
import TaskRunner.Proofs.Graph.Acyclicity

/-! What the first check leaves in the graph. Nothing but how far its nodes were visited is changed.
Where the check accepts, every node is done. Where it shows a cycle, the nodes in progress are the
path to the child that closed it, what is done leads to nothing else, and nothing else was visited. -/

namespace TaskRunner.Graph
open DependencyMap Relation

variable {store : Store} {root : String} {g : Graph}

/-- How far the nodes were visited where a search ended with a cycle. The path leads from the root to
the node whose child closed the cycle, and the cycle is the end of the path from that child on. -/
structure Stopped (store : Store) (g : Graph) (path : List Nat) (cycle : List String) : Prop where
  begins : path.head? = some g.root
  linked : path.IsChain g.Edge
  distinct : path.Nodup
  entered : ∀ id, g.visit id = .inProgress ↔ id ∈ path
  closes : ∃ before child after last, path = before ++ child :: after ∧
    path.getLast? = some last ∧ g.Edge last child ∧ cycle = (child :: after ++ [child]).map g.name
  closed : ∀ id, g.visit id = .done → ∀ child, g.Edge id child → g.visit child = .done
  clear : ∀ id, id < g.size → g.visit id = .done → ¬ store.dependencyMap.Loops (g.name id)
  others : ∀ id, id < g.size → g.visit id ≠ .done → id ∉ path → g.visit id = .unvisited

namespace Search

/-- The path begins at the root, as long as there is one. -/
def Rooted (s : Search) : Prop := ∀ first ∈ s.path.head?, first = s.graph.root

theorem path_cons {s : Search} {frame : Frame} {below : List Frame}
    (stacked : s.stack = frame :: below) :
    s.path = path ⟨s.graph, below⟩ ++ [frame.node] := by
  rw [path, stacked, List.map_cons, List.reverse_cons]
  rfl

theorem Rooted.step {s after : Search} (rooted : s.Rooted) (stepped : s.step = (none, after)) :
    after.Rooted := by
  rcases step_cases stepped with
    ⟨node, below, stacked, rfl⟩ | ⟨node, child, rest, below, stacked, _, rfl⟩ |
    ⟨node, child, rest, below, stacked, _, rfl⟩
  · intro first isFirst
    have before : (path ⟨s.graph, below⟩).head? = some first := isFirst
    apply rooted
    rw [path_cons stacked, List.head?_append, before]
    rfl
  · rw [Rooted, path_cons stacked] at rooted
    rwa [Rooted, path_cons rfl]
  · rw [Rooted, path_cons stacked] at rooted
    rw [Rooted, path_cons rfl, path_cons rfl, List.head?_append_of_ne_nil _ (by simp)]
    exact rooted

theorem rooted_search (g : Graph) : Rooted g.search := by
  unfold search
  split
  next =>
    intro first isFirst
    exact (Option.some.inj isFirst).symm
  next => nofun

theorem Invariant.not_loops {s : Search} (kept : s.Invariant) (closed : Closure store root s.graph)
    {id : Nat} (inside : id < s.graph.size) (done : s.graph.visit id = .done) :
    ¬ store.dependencyMap.Loops (s.graph.name id) := by
  rintro ⟨task, reached, circular⟩
  obtain ⟨last, within, path, rfl⟩ := closed.path_of_reaches inside reached
  exact kept.clear last (kept.done_of_path done path) (closed.loop_of_circular within circular)

theorem Invariant.stopped {s : Search} (kept : s.Invariant) (closed : Closure store root s.graph)
    (rooted : s.Rooted) {node child : Nat} {rest : List Nat} {below : List Frame}
    (stacked : s.stack = ⟨node, child :: rest⟩ :: below)
    (entered : s.graph.visit child = .inProgress) :
    Stopped store s.graph s.path (s.cycle child) := by
  obtain ⟨before, after, split, cycle⟩ := kept.cycle_eq entered
  have linked := kept.chain_path stacked
  have onPath : ∀ id, s.graph.visit id = .inProgress ↔ id ∈ s.path := fun id =>
    (kept.entered id).trans List.mem_reverse.symm
  have last : s.path.getLast? = some node := by
    rw [path_cons stacked, List.getLast?_concat]
  have first : s.path.head? = some s.graph.root := by
    cases found : s.path.head? with
    | none =>
      rw [List.head?_eq_none_iff] at found
      rw [found] at last
      cases last
    | some first => rw [rooted first found]
  refine ⟨first, linked.left_of_append, List.nodup_reverse.mpr kept.distinct, onPath, ?_,
    kept.closed, fun id inside done => ?_, ?_⟩
  · refine ⟨before, child, after, node, split, last, ?_, cycle⟩
    rw [path_cons stacked, List.append_assoc] at linked
    exact linked.right_of_append.rel
  · exact kept.not_loops closed inside done
  · intro id _ undone away
    cases mark : s.graph.visit id with
    | unvisited => rfl
    | inProgress => exact absurd ((onPath id).mp mark) away
    | done => exact absurd mark undone

end Search

/-- The first check of a graph that was built changes nothing but how far its nodes were visited. If
it accepts the graph, all of them are done. If it shows a cycle, the nodes in progress are a path from
the root to a node whose child is on it, and the cycle is the end of the path from that child on. What
is done leads to what is done and reaches no cycle, and all other nodes are unvisited. -/
theorem ensureAcyclic_marks (built : build root store = .ok g) :
    g.ensureAcyclic.2 = g.withVisits g.ensureAcyclic.2.visit ∧
      (g.ensureAcyclic.1 = .ok () → ∀ id, id < g.size → g.ensureAcyclic.2.visit id = .done) ∧
      ∀ e, g.ensureAcyclic.1 = .error e → ∃ path cycle, e = .circularDependency cycle ∧
        Stopped store g.ensureAcyclic.2 path cycle := by
  have closed := closure_of_checked built
  have shape := unmarked_ensureAcyclic g
  have rooted : g.search.run.2.Rooted :=
    (Search.run_induction (fun _ _ => Search.Rooted.step) (Search.rooted_search g)).1
  obtain ⟨kept, answered⟩ := Search.run_induction (fun _ _ => Search.Invariant.step)
    (Search.Invariant.start (closure_of_build built) (unmarked_of_build built))
  refine ⟨eq_withVisits shape (satisfied_ensureAcyclic g), fun accepted id inside => ?_,
    fun e refused => ?_⟩
  · rcases (Search.step_answer answered).2 with ⟨empty, _⟩ | ⟨_, _, _, _, _, _, refused⟩
    · exact kept.all_done closed empty (by rwa [← size_of_shape shape] at inside)
    · cases accepted.symm.trans refused
  · rcases (Search.step_answer answered).2 with
      ⟨_, accepted⟩ | ⟨node, child, rest, below, stacked, entered, shown⟩
    · cases refused.symm.trans accepted
    · cases refused.symm.trans shown
      exact ⟨_, _, rfl, kept.stopped closed rooted stacked entered⟩

def loopAmongOthers : Store :=
  .ofDeclarations [⟨"top", ["lib", "x", "late"]⟩, ⟨"lib", []⟩, ⟨"x", ["lib", "y"]⟩, ⟨"y", ["x"]⟩,
    ⟨"late", ["top"]⟩]

theorem ensureAcyclic_marks_among_others :
    ∃ g path, build "top" loopAmongOthers = .ok g ∧
      (List.range g.size).map (fun id => (g.name id, g.ensureAcyclic.2.visit id)) =
        [("top", .inProgress), ("lib", .done), ("x", .inProgress), ("late", .unvisited),
          ("y", .inProgress)] ∧
      Stopped loopAmongOthers g.ensureAcyclic.2 path ["x", "y", "x"] := by
  have seen : (build "top" loopAmongOthers).map (fun g => (g.ensureAcyclic.1,
      (List.range g.size).map fun id => (g.name id, g.ensureAcyclic.2.visit id))) =
        .ok (.error (.circularDependency ["x", "y", "x"]),
          [("top", .inProgress), ("lib", .done), ("x", .inProgress), ("late", .unvisited),
            ("y", .inProgress)]) := by cbv
  obtain ⟨g, built, both⟩ := exists_of_build_map seen
  obtain ⟨refused, marks⟩ := Prod.mk.inj both
  obtain ⟨path, _, same, stopped⟩ := (ensureAcyclic_marks built).2.2 _ refused
  cases same
  exact ⟨g, path, built, marks, stopped⟩

end TaskRunner.Graph
