import TaskRunner.Build
import TaskRunner.Proofs.Execution.Simulation
import TaskRunner.Proofs.Source.Passes

/-! The stages of a run. Once a file was scanned, only the graph can still be refused before the
first action: the second reading succeeds, and the execution that follows finds the actions of the
file in the store. -/

namespace TaskRunner
open Source Build

variable {σ : Type} {store : Store} {root : String}

def outcome (root : String) (ended : Except ActionError (List String) × Execution σ) :
    BuildOutcome σ :=
  ⟨(ended.1.map (BuildReport.mk root)).mapError .action, ended.2.events.toList, ended.2.runner⟩

theorem build_of_prepare {request : BuildRequest} {file : Except IoError Bytes} {g : Graph}
    (prepared : prepare request file = .ok (root, g, store)) (runner : Runner σ) (state : σ) :
    build request file runner state = outcome root (satisfyRoot runner store g state) := by
  unfold build outcome
  rw [prepared]
  dsimp only
  split
  next answered =>
    rw [answered]
    rfl
  next answered =>
    rw [answered]
    rfl

theorem readTasks_of_scan {request : BuildRequest} {bytes : Bytes}
    (scanned : scan request.path (.ofBytes bytes) = .ok store)
    (requested : request.target.or (firstName? bytes) = some root) :
    readTasks request (.ok bytes) = .ok (store, root) := by
  rw [← firstDeclared_of_scan scanned] at requested
  unfold readTasks
  have opened : openFile request.path (.ok bytes) = .ok (.ofBytes bytes) := rfl
  simp only [opened, scanned, bind, Except.bind]
  cases named : request.target with
  | some target =>
    rw [named] at requested
    cases requested
    rfl
  | none =>
    rw [named] at requested
    rw [show store.firstDeclared = some root from requested]

theorem checkedGraph_cases (root : String) (store : Store) :
    (∃ e, Graph.build root store = .error e ∧ checkedGraph root store = .error e) ∨
    ∃ g, Graph.build root store = .ok g ∧
      checkedGraph root store = g.ensureAcyclic.1.map fun _ => g.ensureAcyclic.2 := by
  unfold checkedGraph
  cases built : Graph.build root store with
  | error e => exact .inl ⟨e, rfl, rfl⟩
  | ok g =>
    refine .inr ⟨g, rfl, ?_⟩
    show (g.ensureAcyclic.1 >>= fun _ => _) = _
    cases g.ensureAcyclic.1 <;> rfl

theorem checkedGraph_ok {g : Graph} (checked : checkedGraph root store = .ok g) :
    Graph.Closure store root g ∧ g.Acyclic ∧ ∀ id, id < g.size → g.satisfied id = false := by
  rcases checkedGraph_cases root store with ⟨_, _, refused⟩ | ⟨g', built, answered⟩
  · cases refused.symm.trans checked
  · cases accepted : g'.ensureAcyclic.1 with
    | error e =>
      rw [accepted] at answered
      cases answered.symm.trans checked
    | ok =>
      rw [accepted] at answered
      cases answered.symm.trans checked
      exact ⟨Graph.closure_of_checked built, Graph.acyclic_of_accepted built accepted,
        Graph.fresh_ensureAcyclic built⟩

theorem Graph.Closure.not_misses {g : Graph} (closed : Graph.Closure store root g) :
    ¬ store.dependencyMap.Misses root := by
  rintro ⟨name, reached, undeclared⟩
  obtain ⟨id, inside, rfl⟩ := closed.exists_name_iff.mpr reached
  have declared := closed.declared id inside
  rw [store.contains_eq_dependencyMap, undeclared] at declared
  cases declared

/-- The graph of a task is refused for an undeclared name before it is for a loop, and for nothing
else. -/
theorem checkedGraph_decides (root : String) (store : Store) :
    let m := store.dependencyMap
    (m.Misses root ∧ ∃ name, checkedGraph root store = .error (.undeclaredTask name)) ∨
    (¬ m.Misses root ∧ m.Loops root ∧
      ∃ cycle, checkedGraph root store = .error (.circularDependency cycle)) ∨
    (¬ m.Misses root ∧ ¬ m.Loops root ∧ ∃ g, checkedGraph root store = .ok g) := by
  rcases checkedGraph_cases root store with ⟨e, failed, refused⟩ | ⟨g, built, answered⟩
  · obtain ⟨name, rfl, reached, undeclared⟩ := Graph.build_error failed
    rw [store.contains_eq_dependencyMap, Option.isSome_eq_false_iff,
      Option.isNone_iff_eq_none] at undeclared
    exact .inl ⟨⟨name, reached, undeclared⟩, name, refused⟩
  · have closed := Graph.closure_of_build built
    rcases Graph.ensureAcyclic_cases closed (Graph.unmarked_of_build built) with
      ⟨accepted, acyclic⟩ | ⟨cycle, refused, loop, reached⟩
    · rw [accepted] at answered
      have clear : ¬ store.dependencyMap.Loops root := fun ⟨task, reached, circular⟩ =>
        closed.acyclic_iff.mp acyclic task reached circular
      exact .inr (.inr ⟨closed.not_misses, clear, _, answered⟩)
    · rw [refused] at answered
      obtain ⟨task, member, circular⟩ := loop.circular
      exact .inr (.inl ⟨closed.not_misses, ⟨task, reached task member, circular⟩, cycle, answered⟩)

theorem exists_checkedGraph
    (declared : ∀ name, store.dependencyMap.Reaches root name → store.contains name = true)
    (clear : ∀ name, store.dependencyMap.Reaches root name →
      ¬ store.dependencyMap.Circular name) :
    ∃ g, checkedGraph root store = .ok g := by
  rcases checkedGraph_decides root store with
    ⟨⟨name, reached, undeclared⟩, _⟩ | ⟨_, ⟨task, reached, circular⟩, _⟩ | ⟨_, _, accepted⟩
  · have known := declared name reached
    rw [store.contains_eq_dependencyMap, undeclared] at known
    cases known
  · exact absurd circular (clear task reached)
  · exact accepted

theorem loadActions_of_scan (request : BuildRequest) {bytes : Bytes}
    (scanned : scan request.path (.ofBytes bytes) = .ok store) (g : Graph) :
    ∃ loaded, loadActions request (.ok bytes) g store = .ok loaded ∧
      ∀ name, g.contains name → loaded.actions name = actions bytes name := by
  obtain ⟨count, loaded, attached, same⟩ := attachActions_of_scan scanned request.path g
  refine ⟨loaded, ?_, same⟩
  show ((attachActions request.path g (.ofBytes bytes) store).1 >>= fun _ =>
    Except.ok (attachActions request.path g (.ofBytes bytes) store).2) = _
  rw [attached]
  rfl

theorem build_of_scan (request : BuildRequest) {bytes : Bytes}
    (scanned : scan request.path (.ofBytes bytes) = .ok store)
    (requested : request.target.or (firstName? bytes) = some root) (runner : Runner σ) (state : σ) :
    (∃ e, checkedGraph root store = .error e ∧
      build request (.ok bytes) runner state = ⟨.error (.graph e), [], state⟩) ∨
    ∃ g loaded, checkedGraph root store = .ok g ∧
      (∀ name, g.contains name → loaded.actions name = actions bytes name) ∧
      build request (.ok bytes) runner state =
        outcome root (satisfyRoot runner loaded g state) := by
  have tasks := readTasks_of_scan scanned requested
  cases checked : checkedGraph root store with
  | error e =>
    refine .inl ⟨e, rfl, ?_⟩
    have prepared : prepare request (.ok bytes) = .error (.graph e) := by
      unfold prepare
      rw [tasks]
      show ((checkedGraph root store).mapError BuildError.graph >>= _) = _
      rw [checked]
      rfl
    unfold build
    rw [prepared]
  | ok g =>
    obtain ⟨loaded, load, same⟩ := loadActions_of_scan request scanned g
    refine .inr ⟨g, loaded, rfl, same, ?_⟩
    have prepared : prepare request (.ok bytes) = .ok (root, g, loaded) := by
      unfold prepare
      rw [tasks]
      show ((checkedGraph root store).mapError BuildError.graph >>= _) = _
      rw [checked]
      show ((loadActions request (.ok bytes) g store).mapError BuildError.scan >>= _) = _
      rw [load]
      rfl
    exact build_of_prepare prepared runner state

end TaskRunner
