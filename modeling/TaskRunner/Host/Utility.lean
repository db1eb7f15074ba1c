import TaskRunner.Host.Utility.Cat
import TaskRunner.Host.Utility.Condition
import TaskRunner.Host.Utility.Count
import TaskRunner.Host.Utility.Directory
import TaskRunner.Host.Utility.Head
import TaskRunner.Host.Utility.Print
import TaskRunner.Host.Utility.Remove
import TaskRunner.Host.Utility.Touch

/-! The utilities of the host by their names, all but the shell. -/

namespace TaskRunner.Host.Utility

def byName (name : String) : Option Program :=
  match name with
  | "true" => some fun _ _ => pure 0
  | "false" => some fun _ _ => pure 1
  | "echo" => some echo
  | "printf" => some printf
  | "cat" => some cat
  | "touch" => some touch
  | "mkdir" => some mkdir
  | "rm" => some rm
  | "test" => some test
  | "[" => some bracket
  | "head" => some head
  | "wc" => some wc
  | _ => none

/-- The names of all programs that the host has; the shell is found by another name too. -/
def programNames : List String :=
  ["[", "cat", "dash", "echo", "false", "head", "mkdir", "printf", "rm", "test", "touch", "true",
    "wc"]

end TaskRunner.Host.Utility
