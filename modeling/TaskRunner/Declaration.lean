/-! A declaration names a task and lists the tasks it depends on, in the order in which they are
visited. A line that is no declaration is refused for one of two causes. -/

namespace TaskRunner

structure Declaration where
  name : String
  dependencies : List String
  deriving DecidableEq, Repr

/-- What is wrong with a line; the position counts characters from the start of the line. -/
inductive Offence where
  | invalidCharacter (position : Nat) (found : Char)
  | missingSeparator
  deriving DecidableEq, Repr

/-- Line numbers start at one; zero stands for a line that was read on its own. -/
structure GrammarError where
  line : String
  lineNumber : Nat
  offence : Offence
  deriving DecidableEq, Repr

namespace GrammarError

def atLine (e : GrammarError) (number : Nat) : GrammarError :=
  { e with lineNumber := number }

def message (e : GrammarError) : String :=
  let place := s!"Parse error in line {e.lineNumber} \"{e.line}\""
  match e.offence with
  | .invalidCharacter position found =>
    s!"{place} at pos {position}: unexpected '{found}'. " ++
      "Only letters and digits are allowed in task names."
  | .missingSeparator => s!"{place}: no ':' separator after the task name."

end GrammarError
end TaskRunner
