import TaskRunner.Graph
import TaskRunner.Store

/-! The graph of the tasks that a root depends on. Nodes are added in breadth-first order: node by
node, its dependencies are looked up in declared order, and one that is new becomes the next node.
Every node is a declared task, so there are at most as many nodes as the store has tasks, and going
through that many numbers reaches every node. -/

namespace TaskRunner.Graph

def single (name : String) : Graph :=
  { nodes := #[{ name }], index := (∅ : Std.ExtTreeMap String Nat).insert name 0, root := 0 }

def addNode (g : Graph) (name : String) : Graph :=
  let id := g.size
  { g with nodes := g.nodes.push { name }, index := g.index.insert name id }

/-- The number of a task, which becomes a node if it is none yet. -/
def intern (store : Store) (g : Graph) (name : String) : Except GraphError (Graph × Nat) :=
  match g.idOf? name with
  | some id => .ok (g, id)
  | none =>
    if store.contains name then
      let id := g.size
      .ok (g.addNode name, id)
    else .error (.undeclaredTask name)

def internAll (store : Store) (g : Graph) (ids : Array Nat) :
    List String → Except GraphError (Graph × List Nat)
  | [] => .ok (g, ids.toList)
  | name :: names =>
    match g.intern store name with
    | .ok (g, id) => g.internAll store (ids.push id) names
    | .error e => .error e

/-- Gives a node its children; a number that no node has is left alone. -/
def expand (store : Store) (g : Graph) (id : Nat) : Except GraphError Graph :=
  if id < g.size then
    match store.get? (g.name id) with
    | none => .error (.undeclaredTask (g.name id))
    | some entry =>
      match g.internAll store #[] entry.dependencies with
      | .ok (g, ids) => .ok (g.setChildren id ids)
      | .error e => .error e
  else .ok g

def expandAll (store : Store) (g : Graph) : List Nat → Except GraphError Graph
  | [] => .ok g
  | id :: ids =>
    match g.expand store id with
    | .ok g => g.expandAll store ids
    | .error e => .error e

def build (root : String) (store : Store) : Except GraphError Graph :=
  if store.contains root then (single root).expandAll store (List.range store.size)
  else .error (.undeclaredTask root)

end TaskRunner.Graph
