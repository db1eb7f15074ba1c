import TaskRunner.Proofs.Build.Stages
import TaskRunner.Proofs.Execution.Order

/-! What a run does when nothing is wrong: no task that the root reaches is undeclared or circular,
and no action fails. Everything that the root reaches finishes once, behind what it depends on, and
the actions are those of the file in that order. -/

namespace TaskRunner
open Source Build

variable {σ : Type} {store : Store} {root : String}

theorem Graph.Closure.mem_front {g : Graph} (closed : g.Closure store root) {done : List Nat}
    (inside : ∀ id ∈ done, id < g.size) (ordered : ChildrenFirst g done) {front back : List String}
    {name : String} (split : done.map g.name = front ++ name :: back) {dependency : String}
    (depends : store.dependencyMap.Depends name dependency) : dependency ∈ front := by
  obtain ⟨before, rest, rfl, rfl, rest_eq⟩ := List.map_eq_append_iff.mp split
  obtain ⟨id, after, rfl, rfl, _⟩ := List.map_eq_cons_iff.mp rest_eq
  have within := inside id (List.mem_append_right _ List.mem_cons_self)
  obtain ⟨child, edge, rfl⟩ := closed.edge_of_depends within depends
  exact List.mem_map_of_mem (ordered before id after rfl child edge)

/-- The tasks that the root reaches finish, each once and behind its dependencies, and the runner
is given their actions in that order and nothing else. -/
theorem build_dependencies_first (request : BuildRequest) {bytes : Bytes}
    (scanned : scan request.path (.ofBytes bytes) = .ok store)
    (requested : request.target.or (firstName? bytes) = some root)
    (declared : ∀ name, (dependencies bytes).Reaches root name → (task? bytes name).isSome)
    (clear : ∀ name, (dependencies bytes).Reaches root name →
      ¬ (dependencies bytes).Circular name)
    (runner : Runner σ) (accepts : runner.Accepts) (state : σ) :
    ∃ finished, (build request (.ok bytes) runner state).answer = .ok ⟨root, finished⟩ ∧
      finished.Nodup ∧ (∀ name, name ∈ finished ↔ (dependencies bytes).Reaches root name) ∧
      (∀ front name back, finished = front ++ name :: back →
        ∀ dependency, (dependencies bytes).Depends name dependency → dependency ∈ front) ∧
      (build request (.ok bytes) runner state).events.filterMap Event.action? =
        finished.flatMap (actions bytes) ∧
      (build request (.ok bytes) runner state).runner =
        runner.after state (finished.flatMap (actions bytes)) := by
  have map_eq := dependencyMap_of_scan scanned
  rw [← map_eq] at declared clear ⊢
  have contains : ∀ name, store.dependencyMap.Reaches root name → store.contains name = true := by
    intro name reached
    rw [store.contains_eq, get?_of_scan scanned, Option.isSome_map]
    exact declared name reached
  obtain ⟨g, accepted⟩ := exists_checkedGraph contains clear
  rcases build_of_scan request scanned requested runner state with
    ⟨_, refused, _⟩ | ⟨g, loaded, checked, attached, ran⟩
  · cases accepted.symm.trans refused
  · obtain ⟨closed, acyclic, fresh⟩ := checkedGraph_ok checked
    obtain ⟨done, answered, executed, given, distinct, complete, ordered⟩ :=
      satisfyRoot_ledger closed acyclic fresh accepts loaded state
    have inside : ∀ id ∈ done, id < g.size := fun id => (complete id).mp
    have loaded_eq : ∀ id ∈ done, loaded.actions (g.name id) = actions bytes (g.name id) :=
      fun id member => attached _ (closed.contains_iff.mpr (closed.reached id (inside id member)))
    -- The execution takes the actions from the store, which has them from the file.
    have stored : (done.flatMap fun id => loaded.actions (g.name id)) =
        (done.map g.name).flatMap (actions bytes) :=
      (List.flatMap_congr loaded_eq).trans (List.flatMap_map _ _ _).symm
    rw [stored] at executed given
    refine ⟨done.map g.name, ?_, ?_, fun name => ?_, fun front name back split dependency => ?_,
      ?_, ?_⟩
    · rw [ran, outcome, answered]
      rfl
    · exact distinct.map_on fun first member second member' same =>
        closed.name_injective (inside first member) (inside second member') same
    · rw [List.mem_map, ← closed.exists_name_iff]
      exact exists_congr fun id => and_congr_left fun _ => complete id
    · exact closed.mem_front inside ordered split
    · rw [ran]
      exact executed
    · rw [ran]
      exact given

theorem idxOf_dependency_lt {map : DependencyMap} {finished : List String}
    (distinct : finished.Nodup)
    (ordered : ∀ front name back, finished = front ++ name :: back →
      ∀ dependency, map.Depends name dependency → dependency ∈ front)
    {name dependency : String} (member : name ∈ finished) (depends : map.Depends name dependency) :
    finished.idxOf dependency < finished.idxOf name := by
  obtain ⟨front, back, rfl⟩ := List.append_of_mem member
  have before := ordered front name back rfl dependency depends
  have later : name ∉ front := fun early => (List.disjoint_of_nodup_append distinct) early
    List.mem_cons_self
  rw [List.idxOf_append_of_mem before, List.idxOf_append_of_notMem later]
  exact (List.idxOf_lt_length_of_mem before).trans_le (Nat.le_add_right ..)

/-- Three tasks need the library, one of them twice. -/
def libraryFile : Bytes :=
  .ofString ("all: app docs lib\n\n\techo done\r\napp:  lib lib\n  ld app\n" ++
    "lib:\n\tcc lib\n \tar lib\n\ndocs: app lib")

def recordActions : Runner (List String) := fun action given => ({}, given ++ [action])

theorem reaches_libraryFile_iff (name : String) :
    (dependencies libraryFile).Reaches "all" name ↔ name ∈ ["all", "app", "docs", "lib"] := by
  have lists : (dependencies libraryFile).listed "all" = ["app", "docs", "lib"] := by
    decide +kernel
  constructor
  · intro reached
    exact reached.mem_of_closed (by decide) (by decide +kernel)
  · intro member
    rcases List.mem_cons.mp member with rfl | below
    · exact .self _ _
    · exact (DependencyMap.Reaches.self _ _).of_listed (lists ▸ below)

/-- Only one order of the four tasks has the dependencies of each in front of it. -/
theorem eq_of_perm_libraryFile {order : List String}
    (same : order.Perm ["all", "app", "docs", "lib"])
    (lower : ∀ name ∈ order, ∀ dependency ∈ (dependencies libraryFile).listed name,
      order.idxOf dependency < order.idxOf name) : order = ["lib", "app", "docs", "all"] := by
  have only : ∀ order ∈ ["all", "app", "docs", "lib"].permutations',
      (∀ name ∈ order, ∀ dependency ∈ (dependencies libraryFile).listed name,
        order.idxOf dependency < order.idxOf name) → order = ["lib", "app", "docs", "all"] := by
    decide +kernel
  exact only order (List.mem_permutations'.mpr same) lower

theorem build_dependencies_first_library :
    (scan "tasks" (.ofBytes libraryFile)).isOk ∧ firstName? libraryFile = some "all" ∧
      (∀ name, (dependencies libraryFile).Reaches "all" name → (task? libraryFile name).isSome) ∧
      (∀ name, (dependencies libraryFile).Reaches "all" name →
        ¬ (dependencies libraryFile).Circular name) ∧
      let ended := build ⟨"tasks", none⟩ (.ok libraryFile) recordActions []
      let finished := ["lib", "app", "docs", "all"]
      let given := ["cc lib", "ar lib", "ld app", "echo done"]
      ended.answer = .ok ⟨"all", finished⟩ ∧
        (∀ name, name ∈ finished ↔ (dependencies libraryFile).Reaches "all" name) ∧
        ended.events.filterMap Event.action? = given ∧ ended.runner = given := by
  have accepted : (scan "tasks" (.ofBytes libraryFile)).isOk := by decide +kernel
  have first : firstName? libraryFile = some "all" := by decide +kernel
  have declared : ∀ name, (dependencies libraryFile).Reaches "all" name →
      (task? libraryFile name).isSome := by
    have known : ∀ name ∈ ["all", "app", "docs", "lib"], (task? libraryFile name).isSome := by
      decide +kernel
    exact fun name reached => known name ((reaches_libraryFile_iff name).mp reached)
  have clear : ∀ name, (dependencies libraryFile).Reaches "all" name →
      ¬ (dependencies libraryFile).Circular name := by
    intro name _
    have ranked : ∀ task ∈ tasksOf libraryFile, ∀ dependency ∈ task.dependencies,
        ["lib", "app", "docs", "all"].idxOf dependency <
          ["lib", "app", "docs", "all"].idxOf task.name := by
      decide +kernel
    apply DependencyMap.not_circular_of_rank
    intro name dependency depends
    obtain ⟨task, member, rfl, listed⟩ := exists_task_of_depends depends
    exact ranked task member dependency listed
  refine ⟨accepted, first, declared, clear, ?_⟩
  cases scanned : scan "tasks" (.ofBytes libraryFile) with
  | error e => simp [scanned, Except.isOk, Except.toBool] at accepted
  | ok store =>
    obtain ⟨finished, answered, distinct, reached, ordered, executed, given⟩ :=
      build_dependencies_first ⟨"tasks", none⟩ scanned first declared clear recordActions
        (fun _ _ => rfl) []
    have same : finished.Perm ["all", "app", "docs", "lib"] :=
      (List.perm_ext_iff_of_nodup distinct (by decide)).mpr fun name =>
        (reached name).trans (reaches_libraryFile_iff name)
    obtain rfl := eq_of_perm_libraryFile same fun name member dependency lists =>
      idxOf_dependency_lt distinct ordered member (DependencyMap.depends_iff.mpr lists)
    have actions_eq : ["lib", "app", "docs", "all"].flatMap (actions libraryFile) =
        ["cc lib", "ar lib", "ld app", "echo done"] := by
      decide +kernel
    rw [actions_eq] at executed given
    exact ⟨answered, reached, executed, given⟩

end TaskRunner
