import TaskRunner.Graph

/-! The search for cycles: depth-first from the root, with a stack instead of recursion. A node is
marked when the search enters it and again when it leaves it; a child that was entered and not left
closes a cycle. The search ends because a step either marks a node that was unvisited or leaves less
to look at in the nodes on the stack. Marks stay in the graph, also when a cycle was found. -/

namespace TaskRunner.Graph

/-- A node on the stack, and those of its children that were not looked at yet. -/
structure Frame where
  node : Nat
  rest : List Nat
  deriving DecidableEq, Repr

/-- What the frames of a stack leave to do: every child, and then the node itself. -/
def work : List Frame → Nat
  | [] => 0
  | frame :: below => frame.rest.length + 1 + work below

structure Search where
  graph : Graph
  stack : List Frame

namespace Search

def path (s : Search) : List Nat := (s.stack.map (·.node)).reverse

/-- The part of the path from a node on, closed by that node. A node that is not on the path
closes the whole of it. -/
def cycle (s : Search) (child : Nat) : List String :=
  let loop := if child ∈ s.path then s.path.dropWhile (· ≠ child) else s.path
  (loop ++ [child]).map s.graph.name

/-- One step; the answer stands beside the state once there is one. -/
def step (s : Search) : Option (Except GraphError Unit) × Search :=
  match s.stack with
  | [] => (some (.ok ()), s)
  | ⟨node, []⟩ :: below => (none, ⟨s.graph.setVisit node .done, below⟩)
  | ⟨node, child :: rest⟩ :: below =>
    match s.graph.visit child with
    | .done => (none, ⟨s.graph, ⟨node, rest⟩ :: below⟩)
    | .inProgress => (some (.error (.circularDependency (s.cycle child))), s)
    | .unvisited =>
      let entered := s.graph.setVisit child .inProgress
      (none, ⟨entered, ⟨child, entered.children child⟩ :: ⟨node, rest⟩ :: below⟩)

theorem step_decreases {s after : Search} (stepped : s.step = (none, after)) :
    after.graph.unvisited < s.graph.unvisited ∨
      after.graph.unvisited ≤ s.graph.unvisited ∧ work after.stack < work s.stack := by
  unfold step at stepped
  split at stepped
  · simp at stepped
  · next stacked =>
    cases stepped
    refine .inr ⟨s.graph.unvisited_setVisit_le _ (by decide), ?_⟩
    simp only [stacked, work]
    omega
  · next stacked =>
    split at stepped
    · cases stepped
      refine .inr ⟨Nat.le_refl _, ?_⟩
      simp only [stacked, work, List.length_cons]
      omega
    · simp at stepped
    · next fresh =>
      cases stepped
      exact .inl (unvisited_setVisit_lt fresh (by decide))

def run (s : Search) : Except GraphError Unit × Search :=
  match _stepped : s.step with
  | (none, after) => after.run
  | (some answer, after) => (answer, after)
termination_by (s.graph.unvisited, work s.stack)
decreasing_by
  rcases step_decreases _stepped with fewer | ⟨fewer, less⟩
  · exact .left _ _ fewer
  · rcases Nat.lt_or_eq_of_le fewer with fewer | same
    · exact .left _ _ fewer
    · rw [same]
      exact .right _ less

end Search

/-- The search at its start. It does not enter a root that carries a mark already. -/
def search (g : Graph) : Search :=
  if g.visit g.root = .unvisited then
    let entered := g.setVisit g.root .inProgress
    ⟨entered, [⟨g.root, entered.children g.root⟩]⟩
  else ⟨g, []⟩

def ensureAcyclic (g : Graph) : Except GraphError Unit × Graph :=
  let (answer, s) := g.search.run
  (answer, s.graph)

end TaskRunner.Graph
