import TaskRunner.Proofs.Build.Stages
import TaskRunner.Proofs.Graph.Locality

/-! A run looks at nothing but what its target reaches. Files that say the same about those tasks
lead to the same outcome, whatever else they declare and in whatever order. -/

namespace TaskRunner
open Source Build

variable {σ : Type} {g : Graph} {store other : Store}

namespace Procedure

theorem exec_visit_congr (founded : g.Founded) (runner : Runner σ)
    (same : ∀ id, id < g.size → store.actions (g.name id) = other.actions (g.name id)) (id : Nat)
    {p : Progress σ} (shape : p.graph.unmarked = g.unmarked) :
    (visit founded runner store id).exec p = (visit founded runner other id).exec p := by
  induction id using founded.induction generalizing p with
  | _ id ih =>
    rw [exec_visit, exec_visit]
    split
    next => rfl
    next left =>
      have inside : id < g.size := by
        rw [← Graph.size_of_shape shape]
        exact Graph.lt_size_of_satisfied (Bool.not_eq_true _ ▸ left)
      have keeps : ∀ child ∈ g.children id, Keeps g (visit founded runner store child) :=
        fun child _ => keeps_visit founded runner store child
      have begun : (p.start id).graph.unmarked = g.unmarked := shape
      apply exec_bind_congr (exec_forM_congr keeps (fun child edge _ => ih child edge) begun)
      intro _ after ended
      have shape' := Keeps.forM keeps _ begun
      rw [ended] at shape'
      unfold complete
      rw [exec_get_bind, exec_get_bind, Graph.name_of_shape shape', same id inside]

end Procedure

theorem satisfyRoot_congr {declared : Store} {root : String} (closed : g.Closure declared root)
    (acyclic : g.Acyclic)
    (same : ∀ id, id < g.size → store.actions (g.name id) = other.actions (g.name id))
    (runner : Runner σ) (state : σ) :
    (satisfyRoot runner store g state).1 = (satisfyRoot runner other g state).1 ∧
      (satisfyRoot runner store g state).2.progress =
        (satisfyRoot runner other g state).2.progress := by
  have visits := Procedure.exec_visit_congr (closed.founded acyclic) runner same g.root
    (show (Progress.initial g state).graph.unmarked = g.unmarked from rfl)
  rw [exec_visit_root acyclic, exec_visit_root acyclic] at visits
  obtain ⟨answers, progress⟩ := Prod.mk.inj visits
  have finished : ((Execution.begin g state).run runner store).2.finishedTasks =
    ((Execution.begin g state).run runner other).2.finishedTasks :=
      congrArg Progress.finished progress
  rw [satisfyRoot_eq_run, satisfyRoot_eq_run]
  dsimp only
  rw [answers, finished]
  exact ⟨rfl, progress⟩

/-- Two files that declare what the target reaches alike, with the same actions, give the same
outcome: the report or the error, the events, and the state of the runner. -/
theorem build_eq_of_reachable {path path' : String} {bytes bytes' : Bytes} {target : String}
    (scanned : scan path (.ofBytes bytes) = .ok store)
    (scanned' : scan path' (.ofBytes bytes') = .ok other)
    (same : ∀ name, (dependencies bytes).Reaches target name →
      task? bytes name = task? bytes' name)
    (runner : Runner σ) (state : σ) :
    build ⟨path, some target⟩ (.ok bytes) runner state =
      build ⟨path', some target⟩ (.ok bytes') runner state := by
  have graphs : checkedGraph target store = checkedGraph target other := by
    unfold checkedGraph
    rw [Graph.build_congr]
    intro name reached
    rw [dependencyMap_of_scan scanned] at reached ⊢
    rw [dependencyMap_of_scan scanned', dependencies, dependencies, same name reached]
  rcases build_of_scan ⟨path, some target⟩ scanned rfl runner state with
    ⟨e, refused, ran⟩ | ⟨g, loaded, checked, attached, ran⟩
  · rcases build_of_scan ⟨path', some target⟩ scanned' rfl runner state with
      ⟨e', refused', ran'⟩ | ⟨_, _, checked', _⟩
    · cases refused.symm.trans (graphs.trans refused')
      exact ran.trans ran'.symm
    · cases refused.symm.trans (graphs.trans checked')
  · rcases build_of_scan ⟨path', some target⟩ scanned' rfl runner state with
      ⟨_, refused', _⟩ | ⟨_, loaded', checked', attached', ran'⟩
    · cases checked.symm.trans (graphs.trans refused')
    · cases checked.symm.trans (graphs.trans checked')
      obtain ⟨closed, acyclic, _⟩ := checkedGraph_ok checked
      have actions_eq : ∀ id, id < g.size →
          loaded.actions (g.name id) = loaded'.actions (g.name id) := by
        intro id inside
        have reached := closed.reached id inside
        have contained := closed.contains_iff.mpr reached
        rw [dependencyMap_of_scan scanned] at reached
        rw [attached _ contained, attached' _ contained, actions, actions, same _ reached]
      obtain ⟨answers, progress⟩ := satisfyRoot_congr closed acyclic actions_eq runner state
      have events := congrArg Progress.events progress
      have runners := congrArg Progress.runner progress
      rw [ran, ran', outcome, outcome, answers]
      exact congr (congrArg _ (congrArg Array.toList events)) runners

def tidyFile : Bytes :=
  .ofString "app: lib\n\tld app\nlib:\n\tcc lib\nold: gone\n"

def untidyFile : Bytes :=
  .ofString "new: new\n\n  rm x\nlib:\r\n  cc lib\r\napp:  lib\n\n    ld app"

theorem build_eq_of_reachable_untidy :
    (scan "tidy" (.ofBytes tidyFile)).isOk ∧ (scan "untidy" (.ofBytes untidyFile)).isOk ∧
      (∀ name, (dependencies tidyFile).Reaches "app" name →
        task? tidyFile name = task? untidyFile name) ∧
      build ⟨"tidy", some "app"⟩ (.ok tidyFile) refusesSecond 0 =
        build ⟨"untidy", some "app"⟩ (.ok untidyFile) refusesSecond 0 := by
  have accepted : (scan "tidy" (.ofBytes tidyFile)).isOk := by decide +kernel
  have accepted' : (scan "untidy" (.ofBytes untidyFile)).isOk := by decide +kernel
  have same : ∀ name, (dependencies tidyFile).Reaches "app" name →
      task? tidyFile name = task? untidyFile name := by
    intro name reached
    have member : name ∈ ["app", "lib"] :=
      reached.mem_of_closed (by decide) (by decide +kernel)
    have alike : ∀ name ∈ ["app", "lib"], task? tidyFile name = task? untidyFile name := by
      decide +kernel
    exact alike name member
  refine ⟨accepted, accepted', same, ?_⟩
  cases scanned : scan "tidy" (.ofBytes tidyFile) with
  | error e => simp [scanned, Except.isOk, Except.toBool] at accepted
  | ok store =>
    cases scanned' : scan "untidy" (.ofBytes untidyFile) with
    | error e => simp [scanned', Except.isOk, Except.toBool] at accepted'
    | ok other => exact build_eq_of_reachable scanned scanned' same refusesSecond 0

end TaskRunner
