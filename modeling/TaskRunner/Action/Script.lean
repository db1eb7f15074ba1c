import TaskRunner.Action

/-! A runner that starts nothing and follows a script instead. An action fails as the first rule for
it says, every time it is run; an action without a rule succeeds. -/

namespace TaskRunner

structure ScriptRule where
  action : String
  failure : ActionFailure
  deriving DecidableEq, Repr

def scriptRunner (rules : List ScriptRule) : Runner Unit :=
  fun action state =>
    ({ failure := (rules.find? (·.action = action)).map (·.failure) }, state)

end TaskRunner
