import TaskRunner.Action.Words

/-! The command that carries out an action: a program and its arguments. On a Unix host the action
is cut up and its program is run directly; on any other host the action goes to the command
interpreter as it is. A word with a NUL cannot be handed to a process. -/

namespace TaskRunner

inductive Platform where
  | unix
  | windows
  deriving DecidableEq, Repr

structure Command where
  program : String
  arguments : List String
  deriving DecidableEq, Repr

namespace Command

def interpreter : String := "cmd.exe"
def interpreterFlag : String := "/C"

def ofAction (platform : Platform) (action : String) : Command :=
  match platform with
  | .unix =>
    let (program, raw) := Action.splitProgram action
    ⟨program, Action.splitArguments raw⟩
  | .windows => ⟨interpreter, [interpreterFlag, action]⟩

def words (c : Command) : List String := c.program :: c.arguments

def hasNul (word : String) : Bool := word.toList.contains '\x00'

def canLaunch (c : Command) : Bool := c.words.all (!hasNul ·)

/-- The words as they are shown; one with a NUL is left out and a placeholder stands for it. -/
def shownWords (c : Command) : List String :=
  c.words.map fun word => if hasNul word then "<string-with-nul>" else word

end Command
end TaskRunner
