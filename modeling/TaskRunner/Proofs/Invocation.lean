import TaskRunner.Host.Change
import TaskRunner.Invocation
import TaskRunner.Proofs.Build.Stages
import TaskRunner.Proofs.Execution.Processes

/-! What a call does to the host it works on. A run touches the state of its runner through the
actions that it tells of and in no other way. On a host these are the commands that it starts, so a
call that starts none leaves all files as they were, whatever it says. -/

namespace TaskRunner

/-- The runner of a run was given the actions that the run tells of, in that order. -/
theorem build_runner_eq {σ : Type} (request : BuildRequest) (file : Except IoError Bytes)
    (runner : Runner σ) (state : σ) :
    (build request file runner state).runner =
      runner.after state ((build request file runner state).events.filterMap Event.action?) := by
  cases prepared : Build.prepare request file with
  | error e =>
    unfold build
    rw [prepared]
    rfl
  | ok found =>
    obtain ⟨root, g, store⟩ := found
    rw [build_of_prepare prepared]
    exact (satisfyRoot_faithful runner store g state).runner_eq

theorem Host.changes_eq_nil {before after : Host} (same : after.files = before.files) :
    before.changes after = [] := by
  have places : changedPlaces before.here before.files before.files = [] := by
    have alike (found : List Place) :
        (found.filter fun place => before.here.isPrefixOf place &&
          before.files.holding? place ≠ before.files.holding? place) = [] := by
      simp
    simp only [changedPlaces, alike, List.mergeSort_nil]
  rw [changes, same, places]
  rfl

/-- A call that gives no action to the operating system leaves the files of its host alone. -/
theorem Invocation.changes_runTask (i : Invocation) (options : Options) (target : Option String)
    (host : Host)
    (idle : (build ⟨options.taskFilePath, target⟩ (host.contentOf options.taskFilePath)
      (processRunner .unix (Host.launch options.directory)) host).events.filterMap
        Event.action? = []) :
    host.changes (i.runTask options target host).host = [] := by
  apply Host.changes_eq_nil
  have left := build_runner_eq ⟨options.taskFilePath, target⟩
    (host.contentOf options.taskFilePath) (processRunner .unix (Host.launch options.directory)) host
  rw [idle] at left
  unfold runTask
  dsimp only
  split
  · exact congrArg Host.files left
  · exact congrArg Host.files left

end TaskRunner
