import TaskRunner.Host.Shell.Builtin.Options

/-! Commands that leave loops, functions and the shell itself, and the small ones that tell about
processes. -/

namespace TaskRunner.Host.Shell
namespace Builtin

def leaveLoops (again : Bool) (arguments : List Raw) : Run Nat := do
  let n ←
    match arguments with
    | [] => pure 1
    | text :: _ => do
      let n ← Run.count text
      if n = 0 then Run.noNumber text
      pure n
  let loops := min n (← Run.shell).loops
  if loops ≠ 0 then
    Run.change fun s => { s with skip := if again then .continue_ loops else .break_ loops }
  pure 0

def return_ (arguments : List Raw) : Run Nat := do
  match arguments with
  | [] =>
    Run.change fun s => { s with skip := .text }
    pure (← Run.shell).status
  | text :: _ =>
    let status ← Run.count text
    Run.change fun s => { s with skip := .function }
    pure status

def exit (arguments : List Raw) : Run Nat := do
  match arguments with
  | [] => pure ()
  | text :: _ =>
    let status ← Run.count text
    Run.change fun s => { s with savedStatus := some status }
  throw .exit

def times : Run Nat := do
  Run.say "0m0.000000s 0m0.000000s\n0m0.000000s 0m0.000000s\n"
  pure 0

end Builtin
end TaskRunner.Host.Shell
