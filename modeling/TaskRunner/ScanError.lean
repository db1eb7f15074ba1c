import TaskRunner.Declaration
import TaskRunner.IoError

/-! Why a task file cannot be used. -/

namespace TaskRunner

inductive ScanError where
  | fileNotFound (path : String)
  | emptyFile (path : String)
  | unreadable (path : String) (cause : IoError)
  | duplicateTask (name : String) (lineNumber : Nat)
  | grammar (cause : GrammarError)
  deriving DecidableEq, Repr

namespace ScanError

def message : ScanError → String
  | .fileNotFound path => s!"File \"{path}\" doesn't exist."
  | .emptyFile path => s!"File \"{path}\" is empty."
  | .unreadable path cause => s!"I/O error while reading \"{path}\": {cause.message}"
  | .duplicateTask name lineNumber =>
    s!"Task \"{name}\" declaration occurs more than one time (line {lineNumber})."
  | .grammar cause => cause.message

end ScanError
end TaskRunner
