import TaskRunner.Action
import TaskRunner.Action.Command

/-! Running actions as processes. The operating system is a function: it takes a command and its
own state, and answers that the command could not be launched or how its process ended. The two
output streams of a process are shown one after the other, also when it failed. -/

namespace TaskRunner

/-- How a process ended; a process ended by a signal has no exit code. -/
structure ProcessEnd where
  exitCode : Option Int := some 0
  output : Bytes := []
  errors : Bytes := []
  deriving DecidableEq, Repr

abbrev OperatingSystem (σ : Type) := Command → σ → Except IoError ProcessEnd × σ

def ProcessEnd.report (process : ProcessEnd) : ActionReport where
  output := process.output ++ process.errors
  failure := if process.exitCode = some 0 then none else some (.exitStatus process.exitCode)

def processRunner {σ : Type} (platform : Platform) (os : OperatingSystem σ) : Runner σ :=
  fun action state =>
    match os (.ofAction platform action) state with
    | (.ok process, state) => (process.report, state)
    | (.error cause, state) => ({ failure := some (.launch cause) }, state)

end TaskRunner
