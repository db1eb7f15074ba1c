import TaskRunner.Host.Shell.Builtin.Options
import TaskRunner.Host.Shell.Lookup
import TaskRunner.Host.Utility.Message

/-! The directory that a shell is in. It is known by the name that it was reached by; two dots lead
back along that name. -/

namespace TaskRunner.Host.Shell
namespace Builtin

def pathOf (place : Place) : Raw := "/" ++ "/".intercalate place

def joinDirectory (here path : Raw) : Raw :=
  let isRooted := path.startsWith "/"
  let start := if isRooted then [] else (here.splitOn "/").filter (· ≠ "")
  let twoSlashes (text : Raw) : Bool := text.startsWith "//" && !text.startsWith "///"
  let front := if twoSlashes (if isRooted then path else here) then "//" else "/"
  let names := (path.splitOn "/").foldl (fun names name =>
    if name = "" || name = "." then names
    else if name = ".." then names.dropLast
    else names ++ [name]) start
  front ++ "/".intercalate names

/-- Notes the name of the directory; the old name is kept in a variable of its own. -/
def noteDirectory (name : Raw) (keepOld : Bool) : Run Unit := do
  let old := (← Run.shell).directory
  if keepOld then Run.set "OLDPWD" (some old) true
  Run.change fun s => { s with directory := name }
  Run.set "PWD" (some name) true

def enter (path : Raw) (physical : Bool) : Run Bool := do
  let here := (← Run.shell).directory
  let named := if physical then path else joinDirectory here path
  let w ← Run.world
  match w.files.directory? w.process.here named with
  | .error _ => pure false
  | .ok place =>
    Run.act (Act.changeProcess fun p => { p with here := place })
    noteDirectory (if physical then pathOf place else named) true
    pure true

def isFixed (path : Raw) : Bool :=
  path.startsWith "/" || path = "." || path = ".." || path.startsWith "./" || path.startsWith "../"

def cd (arguments : List Raw) : Run Nat := do
  let (options, operands) ← options "LP" arguments
  let physical := (options.getLast?.map (·.1)) = some 'P'
  let given := operands.head?
  let destination ←
    match given with
    | none => pure ((← Run.value? "HOME").getD "")
    | some "-" => pure ((← Run.value? "OLDPWD").getD "")
    | some path => pure path
  let back := given = some "-"
  let refuse : Run Nat := Run.fail s!"can't cd to {destination}"
  let finish (shown : Bool) : Run Nat := do
    if shown then Run.sayLine (← Run.shell).directory
    pure 0
  let direct (path : Raw) : Run Nat := do
    if ← enter path physical then finish back else refuse
  if isFixed destination then direct destination
  else
    let path := if destination = "" then "." else destination
    match ← Run.value? "CDPATH" with
    | none => direct path
    | some search =>
      let w ← Run.world
      let isDirectory (candidate : Raw) : Bool :=
        (w.status? candidate).toOption.any (·.body.isDirectory)
      let choices := (search.splitOn ":").zip (Lookup.candidates search path)
      match choices.find? fun choice => isDirectory choice.2 with
      | some (directory, candidate) =>
        if ← enter candidate physical then finish (back || directory ≠ "")
        else Run.fail s!"can't cd to {path}"
      | none => direct path

def pwd (arguments : List Raw) : Run Nat := do
  let (options, _) ← options "LP" arguments
  let physical := (options.getLast?.map (·.1)) = some 'P'
  let reached := (← Run.shell).directory
  let here := (← Run.world).process.here
  Run.sayLine (if physical then pathOf here else reached)
  pure 0

end Builtin
end TaskRunner.Host.Shell
