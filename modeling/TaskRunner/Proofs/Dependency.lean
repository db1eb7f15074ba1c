import Mathlib.Logic.Relation
import TaskRunner.Store

/-! What depends on what. A dependency map gives every declared task the names it depends on; a name
that is not declared depends on nothing. Reaching is depending in any number of steps, and a task
is circular if it reaches itself in at least one. -/

namespace TaskRunner

/-- The dependencies of every declared task, in declared order. -/
abbrev DependencyMap := String → Option (List String)

def Store.dependencyMap (store : Store) : DependencyMap :=
  fun name => (store.get? name).map (·.dependencies)

def Store.ofDeclarations (declarations : List Declaration) : Store :=
  declarations.foldl (fun store d => (store.insert d).toOption.getD store) .empty

namespace DependencyMap
open Relation

def Depends (m : DependencyMap) (task dependency : String) : Prop :=
  ∃ dependencies, m task = some dependencies ∧ dependency ∈ dependencies

def Reaches (m : DependencyMap) (task other : String) : Prop := ReflTransGen m.Depends task other

def Circular (m : DependencyMap) (task : String) : Prop := TransGen m.Depends task task

/-- Some name that the root reaches is not declared. -/
def Misses (m : DependencyMap) (root : String) : Prop := ∃ name, m.Reaches root name ∧ m name = none

/-- Some task that the root reaches is circular. -/
def Loops (m : DependencyMap) (root : String) : Prop := ∃ task, m.Reaches root task ∧ m.Circular task

theorem Reaches.self (m : DependencyMap) (task : String) : m.Reaches task task := ReflTransGen.refl

variable {m : DependencyMap} {root task : String}

/-- What a name lists as its dependencies; one that is not declared lists nothing. -/
def listed (m : DependencyMap) (task : String) : List String := (m task).getD []

theorem depends_iff {dependency : String} :
    m.Depends task dependency ↔ dependency ∈ m.listed task := by
  unfold Depends listed
  cases m task <;> simp

theorem Reaches.step {dependencies : List String} {name : String} (reached : m.Reaches root task)
    (declared : m task = some dependencies) (member : name ∈ dependencies) : m.Reaches root name :=
  ReflTransGen.tail reached ⟨dependencies, declared, member⟩

theorem Reaches.of_listed {name : String} (reached : m.Reaches root task)
    (lists : name ∈ m.listed task) : m.Reaches root name :=
  ReflTransGen.tail reached (depends_iff.mpr lists)

theorem Reaches.mem_of_closed {names : List String} (inside : root ∈ names)
    (closed : ∀ name ∈ names, ∀ dependency ∈ m.listed name, dependency ∈ names)
    (reached : m.Reaches root task) : task ∈ names := by
  induction reached with
  | refl => exact inside
  | tail _ last ih => exact closed _ ih _ (depends_iff.mp last)

theorem not_circular_of_rank {rank : String → Nat}
    (lower : ∀ name dependency, m.Depends name dependency → rank dependency < rank name) :
    ¬ m.Circular task := by
  have decreasing : ∀ name, TransGen m.Depends task name → rank name < rank task := by
    intro name path
    induction path with
    | single last => exact lower _ _ last
    | tail _ last ih => exact Nat.lt_trans (lower _ _ last) ih
  exact fun circular => Nat.lt_irrefl _ (decreasing task circular)

end DependencyMap

theorem Store.dependencyMap_of_get? (store : Store) {name : String} {entry : TaskEntry}
    (found : store.get? name = some entry) :
    store.dependencyMap name = some entry.dependencies := by
  rw [dependencyMap, found]
  rfl

theorem Store.contains_eq_dependencyMap (store : Store) (name : String) :
    store.contains name = (store.dependencyMap name).isSome := by
  rw [store.contains_eq, dependencyMap, Option.isSome_map]

end TaskRunner
