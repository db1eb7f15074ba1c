import TaskRunner.Bytes
import TaskRunner.IoError

/-! Actions and their runners. An action is the text of one indented line. A runner carries it out,
keeps whatever state it needs, and reports the output to be shown and whether the action failed. -/

namespace TaskRunner

/-- How an action failed. An exit status without a code means that a signal ended the process. -/
inductive ActionFailure where
  | exitStatus (code : Option Int)
  | launch (cause : IoError)
  | forward (cause : IoError)
  deriving DecidableEq, Repr

structure ActionError where
  action : String
  failure : ActionFailure
  deriving DecidableEq, Repr

namespace ActionError

def message (e : ActionError) : String :=
  match e.failure with
  | .exitStatus code =>
    let exit :=
      match code with
      | some code => s!"exit code {code}"
      | none => "terminated by a signal"
    s!"Executing of \"{e.action}\" ended up with non-zero return value ({exit})."
  | .launch cause => s!"OS error while executing \"{e.action}\": {cause.message}."
  | .forward cause => s!"Could not forward the output of \"{e.action}\": {cause.message}"

end ActionError

structure ActionReport where
  output : Bytes := []
  failure : Option ActionFailure := none
  deriving DecidableEq, Repr

abbrev Runner (σ : Type) := String → σ → ActionReport × σ

end TaskRunner
