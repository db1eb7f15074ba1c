import TaskRunner.Errno

/-! Why reading a file or launching a command failed. Three causes lie in the data itself: a line
that is no text, a command or a file name that holds a NUL. The operating system answers with a
number, and a runner of another kind with words of its own. -/

namespace TaskRunner

inductive IoError where
  | malformedText
  | nulInCommand
  | nulInFileName
  | system (cause : Errno)
  | described (text : String)
  deriving DecidableEq, Repr

namespace IoError

def message : IoError → String
  | .malformedText => "stream did not contain valid UTF-8"
  | .nulInCommand => "nul byte found in provided data"
  | .nulInFileName => "file name contained an unexpected NUL byte"
  | .system cause => s!"{cause.text} (os error {cause.number})"
  | .described text => text

end IoError
end TaskRunner
