import TaskRunner.Host.Shell.Variables

/-! Where commands are found: among functions, among the shell's own commands, or as programs along
the path. A program that was found is remembered. -/

namespace TaskRunner.Host.Shell

structure Own where
  isSpecial : Bool := false
  declares : Bool := false
  deriving DecidableEq, Repr

def ownCommands : List (String × Own) :=
  let named (own : Own) (names : List String) : List (String × Own) := names.map (·, own)
  named { isSpecial := true }
    [".", ":", "break", "continue", "eval", "exec", "exit", "return", "set", "shift", "times",
      "trap", "unset"] ++
  named { isSpecial := true, declares := true } ["export", "readonly", "local"] ++
  named { declares := true } ["alias"] ++
  named { isSpecial := false }
    ["[", "bg", "cd", "chdir", "command", "echo", "false", "fg", "getopts", "hash", "jobs", "kill",
      "printf", "pwd", "read", "test", "true", "type", "ulimit", "umask", "unalias", "wait"]

def standardPath : Raw := "/usr/local/sbin:/usr/local/bin:/usr/sbin:/usr/bin:/sbin:/bin"

inductive Found where
  | function (body : Statement)
  | own (o : Own)
  | program (path : Raw)
  | nothing

namespace Lookup

/-- The names by which something is looked for along a path. An empty part is the directory that the
process is in. -/
def candidates (path name : Raw) : List Raw :=
  (path.splitOn ":").map fun directory => if directory = "" then name else s!"{directory}/{name}"

def canRun (inode : Inode) : Bool := inode.body.isFile && inode.mode &&& 0o111 ≠ 0

def alongPath (w : World) (accepts : Inode → Bool) (path name : Raw) : Except Errno Raw :=
  let rec go (cause : Errno) : List Raw → Except Errno Raw
    | [] => .error cause
    | candidate :: rest =>
      match w.status? candidate with
      | .ok inode => if accepts inode then .ok candidate else go .permissionDenied rest
      | .error e => go (if e = .noEntry || e = .notDirectory then cause else e) rest
  go .noEntry (candidates path name)

def reason (e : Errno) : String :=
  if e = .noEntry || e = .notDirectory then "not found" else e.text

def pathValue : Run Raw := do
  pure (((← Run.shell).bindings["PATH"]?.bind (·.value)).getD "")

def inside? (name : Raw) (functions : Bool) : Run (Option Found) := do
  let s ← Run.shell
  if name.toList.contains '/' then pure none
  else
    match if functions then s.functions[name]? else none with
    | some body => pure (some (.function body))
    | none => pure ((ownCommands.lookup name).map .own)

/-- Looks for a program along a path; the usual one is `none`. A program that was found along the
usual path is remembered. -/
def program (name : Raw) (path : Option Raw) : Run (Except Errno Raw) := do
  match path with
  | some path => pure (alongPath (← Run.world) canRun path name)
  | none =>
    match (← Run.shell).found.lookup name with
    | some known => pure (.ok known)
    | none =>
      let found := alongPath (← Run.world) canRun (← pathValue) name
      match found with
      | .ok place => Run.change fun s => { s with found := s.found ++ [(name, place)] }
      | .error _ => pure ()
      pure found

def find (name : Raw) (functions : Bool) (path : Option Raw) : Run Found := do
  if name.toList.contains '/' then pure (.program name)
  else
    match ← inside? name functions with
    | some found => pure found
    | none =>
      match ← program name path with
      | .ok place => pure (.program place)
      | .error e =>
        Run.warn s!"{name}: {reason e}"
        pure .nothing

end Lookup
end TaskRunner.Host.Shell
