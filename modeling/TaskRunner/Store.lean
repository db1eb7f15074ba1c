import Std.Data.ExtTreeMap
import TaskRunner.Declaration

/-! Everything a task file declares, by name and in the order of the declarations. Entries are
looked up by name in a map; the order is kept beside it. -/

namespace TaskRunner

structure TaskEntry where
  dependencies : List String
  actions : List String := []
  deriving DecidableEq, Repr

structure Store where
  entries : Std.ExtTreeMap String TaskEntry
  order : Array String

namespace Store

def empty : Store := ⟨∅, #[]⟩

def get? (store : Store) (name : String) : Option TaskEntry := store.entries[name]?

def contains (store : Store) (name : String) : Bool := store.entries.contains name

def size (store : Store) : Nat := store.entries.size

def isEmpty (store : Store) : Bool := store.entries.isEmpty

def names (store : Store) : List String := store.order.toList

def firstDeclared (store : Store) : Option String := store.order[0]?

def actions (store : Store) (name : String) : List String :=
  match store.get? name with
  | some entry => entry.actions
  | none => []

/-- Adds a task without actions. A declaration whose name is taken is handed back. -/
def insert (store : Store) (d : Declaration) : Except Declaration Store :=
  if store.contains d.name then .error d
  else .ok {
    entries := store.entries.insert d.name { dependencies := d.dependencies }
    order := store.order.push d.name }

/-- Replaces the actions of a declared task, and tells whether the task is declared. -/
def setActions (store : Store) (name : String) (actions : List String) : Bool × Store :=
  match store.get? name with
  | some entry => (true, { store with entries := store.entries.insert name { entry with actions } })
  | none => (false, store)

theorem contains_eq (store : Store) (name : String) :
    store.contains name = (store.get? name).isSome :=
  Std.ExtTreeMap.contains_eq_isSome_getElem?

theorem isEmpty_of_contains {store : Store} {name : String}
    (known : store.contains name = true) : store.isEmpty = false := by
  apply Std.ExtTreeMap.isEmpty_eq_false_iff.mpr
  intro empty
  rw [contains, empty, Std.ExtTreeMap.contains_empty] at known
  cases known

theorem get?_insert {store after : Store} {d : Declaration} (inserted : store.insert d = .ok after)
    (name : String) :
    after.get? name =
      if d.name = name then some { dependencies := d.dependencies } else store.get? name := by
  unfold insert at inserted
  split at inserted
  · cases inserted
  · cases inserted
    simp only [get?, Std.ExtTreeMap.getElem?_insert, Std.compare_eq_iff_eq]

theorem get?_setActions (store : Store) (name : String) (actions : List String) (other : String) :
    (store.setActions name actions).2.get? other =
      if name = other then (store.get? name).map ({ · with actions }) else store.get? other := by
  cases found : store.get? name with
  | none =>
    simp only [setActions, found, Option.map_none]
    split
    · next same => exact same ▸ found
    · rfl
  | some entry =>
    simp only [setActions, found]
    simp only [get?, Std.ExtTreeMap.getElem?_insert, Std.compare_eq_iff_eq, Option.map_some]

theorem names_setActions (store : Store) (name : String) (actions : List String) :
    (store.setActions name actions).2.names = store.names := by
  unfold setActions
  split <;> rfl

end Store
end TaskRunner
