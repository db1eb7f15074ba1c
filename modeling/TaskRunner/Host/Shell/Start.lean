import TaskRunner.Host.Shell.Builtin.Parameters
import TaskRunner.Host.Shell.Descriptors
import TaskRunner.Host.Shell.Lookup

/-! How a shell begins: what its arguments ask for, and the variables that it has before the first
command. -/

namespace TaskRunner.Host.Shell
namespace Start

structure Request where
  switches : List Builtin.SwitchRequest
  isCommand : Bool
  operands : List Raw

def requestOf (arguments : List Raw) : Request :=
  let (switches, _, operands) := Builtin.allSwitchRequests arguments.length arguments
  let isOwn (r : Builtin.SwitchRequest) : Bool := r.letter = 'c' || r.letter = 'l'
  { switches := switches.filter (!isOwn ·), isCommand := switches.any (·.letter = 'c'), operands }

def directoryName (w : World) : Raw :=
  let own := "/" ++ "/".intercalate w.process.here
  match w.process.environment.lookup "PWD" with
  | some path =>
    if path.startsWith "/" && (w.files.directory? [] path).toOption = some w.process.here then path
    else own
  | none => own

def variablesOf (w : World) : Std.TreeMap Raw Variable :=
  let fixed : List (Raw × Raw) :=
    [("PATH", standardPath), ("PS1", "# "), ("PS2", "> "), ("PS4", "+ ")]
  let start : Std.TreeMap Raw Variable :=
    fixed.foldl (fun all (name, value) => all.insert name { value := some value }) {}
  let imported := w.process.environment.foldl (fun all (name, value) =>
    if name ≠ "" && Run.namePart name = name then
      all.insert name { value := some value, exported := true }
    else all) start
  let set (all : Std.TreeMap Raw Variable) (name value : Raw) : Std.TreeMap Raw Variable :=
    let exported := (all[name]?).any (·.exported)
    all.insert name { value := some value, exported }
  let parent := w.process.ancestors.head?.getD 1
  let all := set (set (set imported "IFS" " \t\n") "OPTIND" "1") "PPID" (toString parent)
  all.insert "PWD" { value := some (directoryName w), exported := true }

def shellOf (w : World) (name : Raw) : Interpreter :=
  { name, root := w.process.number, bindings := variablesOf w, directory := directoryName w }

inductive Work where
  | text (commands : Raw) (thenInput : Bool)
  | file (id : Nat)
  | input

/-- Carries out what the arguments say about options. Those that nothing was said about are not
decided before the end. -/
def switchAll (undecided : List String) : List Builtin.SwitchRequest → Run Unit
  | [] => pure ()
  | request :: rest => do
    Builtin.carryOut undecided request
    switchAll (undecided.filter (some · ≠ request.option?)) rest

def prepare (arguments : List Raw) : Run Work := do
  let request := requestOf arguments
  switchAll (Builtin.optionNames.map (·.1)) request.switches
  if request.operands.isEmpty then
    if request.isCommand then Run.fail "-c requires an argument"
    Builtin.switch "stdin" true
  if (← Run.hasOption "interactive") && !request.switches.any (·.option? = some "monitor") then
    Builtin.switch "monitor" true
  let fromInput ← Run.hasOption "stdin"
  let parameters (operands : List Raw) : Run Unit := do
    Builtin.setParameters operands
    Builtin.settleOptions
  match request.isCommand, request.operands with
  | true, text :: operands =>
    match operands with
    | name :: operands =>
      Run.change fun s => { s with name }
      parameters operands
    | [] => parameters []
    pure (.text text fromInput)
  | false, path :: operands =>
    if fromInput then
      parameters (path :: operands)
      pure .input
    else
      match ← Run.act (Act.openPath path { read := true }) with
      | .error e => Descriptors.failToOpen false path e
      | .ok id =>
        Run.change fun s => { s with name := path }
        parameters operands
        pure (.file id)
  | _, [] =>
    parameters []
    pure .input

end Start
end TaskRunner.Host.Shell
