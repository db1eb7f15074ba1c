import TaskRunner.Proofs.Graph.Worklist
import TaskRunner.Proofs.Source.Passes

/-! What the second reading does to the store. Whatever the file holds and however the reading ends,
only actions of tasks that the graph contains are replaced. Over the file that was scanned it
succeeds and comes past every node of the graph once. -/

namespace TaskRunner.Source

variable {path : String} {bytes : Bytes} {g : Graph} {store : Store} {root : String}

/-- The stores declare the same, and differ in actions of tasks of the graph alone. -/
structure Attached (g : Graph) (before after : Store) : Prop where
  names_eq : after.names = before.names
  dependencyMap_eq : after.dependencyMap = before.dependencyMap
  outside : ∀ name, g.contains name = false → after.get? name = before.get? name

theorem Attached.refl (g : Graph) (store : Store) : Attached g store store :=
  ⟨rfl, rfl, fun _ _ => rfl⟩

theorem Attached.trans {before middle after : Store} (first : Attached g before middle)
    (second : Attached g middle after) : Attached g before after where
  names_eq := second.names_eq.trans first.names_eq
  dependencyMap_eq := second.dependencyMap_eq.trans first.dependencyMap_eq
  outside name away := (second.outside name away).trans (first.outside name away)

theorem attached_setActions {name : String} (inside : g.contains name = true) (store : Store)
    (actions : List String) : Attached g store (store.setActions name actions).2 where
  names_eq := store.names_setActions name actions
  dependencyMap_eq := by
    funext other
    rw [Store.dependencyMap, Store.dependencyMap, store.get?_setActions]
    split
    next same =>
      rw [← same, Option.map_map]
      rfl
    next => rfl
  outside other away := by
    rw [store.get?_setActions, if_neg]
    rintro rfl
    cases inside.symm.trans away

theorem attached_attachBlocks (path : String) (g : Graph) (c : Cursor) (store : Store)
    (count : Nat) : Attached g store (attachBlocks path g c store count).2 := by
  fun_induction attachBlocks path g c store count with
  | case1 c store count e after read => exact .refl g store
  | case2 c store count after read => exact .refl g store
  | case3 c store count d head read e after block => exact .refl g store
  | case4 c store count d head read actions rest block inside ih =>
    exact (attached_setActions inside store actions).trans ih
  | case5 c store count d head read actions rest block outside ih => exact ih

theorem attached_attachActions (path : String) (g : Graph) (c : Cursor) (store : Store) :
    Attached g store (attachActions path g c store).2 := attached_attachBlocks path g c store 0

theorem actions_of_scan (scanned : scan path (.ofBytes bytes) = .ok store) (name : String) :
    store.actions name = [] := by
  rw [Store.actions, get?_of_scan scanned]
  cases task? bytes name <;> rfl

theorem isSome_task?_of_contains (scanned : scan path (.ofBytes bytes) = .ok store) {name : String}
    (declared : store.contains name = true) : (task? bytes name).isSome = true := by
  rwa [store.contains_eq, get?_of_scan scanned, Option.isSome_map] at declared

theorem mem_map_name_of_task? {name : String} (known : (task? bytes name).isSome = true) :
    name ∈ (tasksOf bytes).map (·.name) := by
  obtain ⟨task, found⟩ := Option.isSome_iff_exists.mp known
  have named : task.name = name := eq_of_beq (List.find?_eq_some_iff_append.mp found).1
  exact named ▸ List.mem_map_of_mem (List.mem_of_find?_eq_some found)

theorem countP_contains_eq_size (scanned : scan path (.ofBytes bytes) = .ok store)
    (closed : g.Closure store root) :
    (tasksOf bytes).countP (g.contains ·.name) = g.size := by
  have declared_names := (scan_ok scanned).2.distinct
  -- Both sides count distinct names.
  have same : (((tasksOf bytes).map (·.name)).filter g.contains).Perm g.names := by
    rw [List.perm_ext_iff_of_nodup (declared_names.filter _) closed.nodup_names]
    intro name
    rw [List.mem_filter, closed.mem_names_iff, ← closed.contains_iff]
    refine and_iff_right_of_imp fun inside => ?_
    obtain ⟨id, within, rfl⟩ := closed.exists_name_iff.mpr (closed.contains_iff.mp inside)
    exact mem_map_name_of_task? (isSome_task?_of_contains scanned (closed.declared id within))
  calc
    _ = ((tasksOf bytes).map (·.name)).countP g.contains := List.countP_map.symm
    _ = (((tasksOf bytes).map (·.name)).filter g.contains).length := List.countP_eq_length_filter
    _ = g.names.length := same.length_eq
    _ = g.size := g.length_names

/-- The second reading of a scanned file attaches one block for every node of the graph. Each task
of the graph then has the actions of its own block, every other task has none as before, and what
is declared stays as it is. -/
theorem attachActions_exact (scanned : scan path (.ofBytes bytes) = .ok store)
    (built : Graph.build root store = .ok g) (path' : String) :
    ∃ loaded, attachActions path' g (.ofBytes bytes) store = (.ok g.size, loaded) ∧
      (∀ name, g.contains name = true →
        ∃ task, task? bytes name = some task ∧ loaded.actions name = task.actions) ∧
      (∀ name, g.contains name = false → loaded.actions name = []) ∧
      loaded.names = store.names ∧ loaded.dependencyMap = store.dependencyMap := by
  have closed := Graph.closure_of_build built
  have only := attached_attachActions path' g (.ofBytes bytes) store
  obtain ⟨layout, _⟩ := scan_ok scanned
  have counted : (attachActions path' g (.ofBytes bytes) store).1 = .ok g.size := by
    rw [attachActions, Layout.attachBlocks (c := .ofBytes bytes) layout path' g store 0,
      countP_contains_eq_size scanned closed, Nat.zero_add]
  obtain ⟨_, loaded, attached, found⟩ := attachActions_of_scan scanned path' g
  rw [attached] at only counted
  refine ⟨loaded, attached.trans (congrArg (·, loaded) counted), fun name inside => ?_,
    fun name away => ?_, only.names_eq, only.dependencyMap_eq⟩
  · obtain ⟨id, within, rfl⟩ := closed.exists_name_iff.mpr (closed.contains_iff.mp inside)
    obtain ⟨task, known⟩ := Option.isSome_iff_exists.mp
      (isSome_task?_of_contains scanned (closed.declared id within))
    refine ⟨task, known, ?_⟩
    rw [found _ inside, actions, known]
  · have untouched := actions_of_scan scanned name
    rwa [Store.actions, ← only.outside name away] at untouched

def circularFile : Bytes :=
  .ofString "a: b\n\n  one\n \t two \r\n\nold: gone\n  never\nb: a a\n\tthree"

theorem attachActions_exact_circular :
    ∃ store g loaded, scan "tasks" (.ofBytes circularFile) = .ok store ∧
      Graph.build "a" store = .ok g ∧
      attachActions "tasks" g (.ofBytes circularFile) store = (.ok 2, loaded) ∧
      loaded.actions "a" = ["one", "two "] ∧ loaded.actions "old" = [] ∧
      loaded.names = ["a", "old", "b"] := by
  have seen : ((scan "tasks" (.ofBytes circularFile)).toOption.bind fun store =>
      (Graph.build "a" store).toOption.map fun g => (g.size, g.contains "a", g.contains "old",
        store.names)) = some (2, true, false, ["a", "old", "b"]) := by
    decide +kernel
  cases scanned : scan "tasks" (.ofBytes circularFile) with
  | error e => simp [scanned, Except.toOption] at seen
  | ok store =>
    cases built : Graph.build "a" store with
    | error e => simp [scanned, built, Except.toOption] at seen
    | ok g =>
      have facts : g.size = 2 ∧ g.contains "a" = true ∧ g.contains "old" = false ∧
          store.names = ["a", "old", "b"] := by
        simpa [scanned, built, Except.toOption] using seen
      obtain ⟨sized, inside, away, names⟩ := facts
      obtain ⟨loaded, attached, found, empty, names_eq, _⟩ :=
        attachActions_exact scanned built "tasks"
      have own : task? circularFile "a" = some ⟨"a", ["b"], ["one", "two "]⟩ := by decide +kernel
      obtain ⟨task, known, actions⟩ := found "a" inside
      cases own.symm.trans known
      exact ⟨store, g, loaded, rfl, built, sized ▸ attached, actions, empty "old" away,
        names_eq.trans names⟩

end TaskRunner.Source
