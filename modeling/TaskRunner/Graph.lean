import Std.Data.ExtTreeMap

/-! The tasks reachable from one root. Nodes are numbered, and a task that several others depend on
is one node that they share. Every node carries two marks: how far the search for cycles has come
with it, and whether its task is satisfied. An operation on a number that no node has does nothing,
and such a node counts as done and satisfied. -/

namespace TaskRunner

/-- How far the search for cycles has come with a node. -/
inductive Visit where
  | unvisited
  | inProgress
  | done
  deriving DecidableEq, Repr

structure Node where
  name : String
  children : List Nat := []
  visit : Visit := .unvisited
  satisfied : Bool := false
  deriving DecidableEq, Repr

structure Graph where
  nodes : Array Node
  index : Std.ExtTreeMap String Nat
  root : Nat

inductive GraphError where
  | undeclaredTask (name : String)
  | circularDependency (cycle : List String)
  deriving DecidableEq, Repr

def GraphError.message : GraphError → String
  | .undeclaredTask name => s!"No declaration for task \"{name}\" found."
  | .circularDependency cycle =>
    "Cannot determine the order of execution: circular dependency found (" ++
      " -> ".intercalate cycle ++ ")."

namespace Graph

def size (g : Graph) : Nat := g.nodes.size

def idOf? (g : Graph) (name : String) : Option Nat := g.index[name]?

def contains (g : Graph) (name : String) : Bool := g.index.contains name

def name (g : Graph) (id : Nat) : String :=
  match g.nodes[id]? with
  | some node => node.name
  | none => ""

def children (g : Graph) (id : Nat) : List Nat :=
  match g.nodes[id]? with
  | some node => node.children
  | none => []

def visit (g : Graph) (id : Nat) : Visit :=
  match g.nodes[id]? with
  | some node => node.visit
  | none => .done

def satisfied (g : Graph) (id : Nat) : Bool :=
  match g.nodes[id]? with
  | some node => node.satisfied
  | none => true

def setChildren (g : Graph) (id : Nat) (children : List Nat) : Graph :=
  { g with nodes := g.nodes.modify id fun node => { node with children } }

def setVisit (g : Graph) (id : Nat) (visit : Visit) : Graph :=
  { g with nodes := g.nodes.modify id fun node => { node with visit } }

def setSatisfied (g : Graph) (id : Nat) (satisfied : Bool) : Graph :=
  { g with nodes := g.nodes.modify id fun node => { node with satisfied } }

theorem lt_size_of_visit {g : Graph} {id : Nat} (undone : g.visit id ≠ .done) : id < g.size := by
  by_cases inside : id < g.size
  · exact inside
  · unfold size at inside
    simp [visit, Array.getElem?_eq_none (Nat.le_of_not_lt inside)] at undone

theorem visit_setVisit (g : Graph) (id : Nat) (visit : Visit) (other : Nat) :
    (g.setVisit id visit).visit other =
      if id = other ∧ other < g.size then visit else g.visit other := by
  unfold setVisit Graph.visit size
  simp only [Array.getElem?_modify]
  by_cases inside : other < g.nodes.size
  · by_cases same : id = other <;> simp [same, inside]
  · simp [inside]

theorem children_setVisit (g : Graph) (id : Nat) (visit : Visit) (other : Nat) :
    (g.setVisit id visit).children other = g.children other := by
  unfold setVisit children
  simp only [Array.getElem?_modify]
  by_cases same : id = other <;> cases g.nodes[other]? <;> simp [same]

def unvisited (g : Graph) : Nat := g.nodes.toList.countP (·.visit = .unvisited)

theorem unvisited_setVisit_le (g : Graph) (id : Nat) {visit : Visit}
    (marked : visit ≠ .unvisited) : (g.setVisit id visit).unvisited ≤ g.unvisited := by
  unfold unvisited setVisit
  simp only [Array.toList_modify]
  generalize g.nodes.toList = nodes
  induction nodes generalizing id with
  | nil => simp
  | cons node rest ih =>
    cases id with
    | zero => simp [List.countP_cons, marked]
    | succ id =>
      simp only [List.modify_succ_cons, List.countP_cons]
      exact Nat.add_le_add_right (ih id) _

theorem unvisited_setVisit_lt {g : Graph} {id : Nat} {visit : Visit}
    (fresh : g.visit id = .unvisited) (marked : visit ≠ .unvisited) :
    (g.setVisit id visit).unvisited < g.unvisited := by
  unfold Graph.visit at fresh
  rw [← Array.getElem?_toList] at fresh
  unfold unvisited setVisit
  simp only [Array.toList_modify]
  generalize g.nodes.toList = nodes at fresh
  induction nodes generalizing id with
  | nil => simp at fresh
  | cons node rest ih =>
    cases id with
    | zero => simp_all
    | succ id =>
      simp only [List.modify_succ_cons, List.countP_cons]
      exact Nat.add_lt_add_right (ih (by simpa using fresh)) _

end Graph
end TaskRunner
