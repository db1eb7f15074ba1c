import TaskRunner.Host.Utility.Arguments
import TaskRunner.Host.Utility.Mode

/-! The utility that makes directories. With the directories above it asked for, a path is made name
by name, and one that is there already is in order. -/

namespace TaskRunner.Host.Utility
namespace Directory

def options : OptionSet where
  letters := "pvZ"
  valued := "m"
  words :=
    [("context", .maybe, "Z"), ("mode", .always, "m"), ("parents", .never, "p"),
      ("verbose", .never, "v"), ("help", .never, "help"), ("version", .never, "version")]

structure Settings where
  name : Raw
  parents : Bool
  verbose : Bool
  mode : Nat
  innerMode : Nat

def refuse (s : Settings) (path : Raw) (e : Errno) : Act Bool := do
  Act.complain s!"{s.name}: cannot create directory {quoted path}: {e.text}"
  pure false

def withoutEnd (path : Raw) : Raw :=
  let short := path.toList.reverse.dropWhile (· = '/')
  if short = [] then path else String.ofList short.reverse

/-- Makes one directory; `inOrder` tells whether one that is there already is. -/
def make (s : Settings) (mode : Nat) (inOrder : Bool) (path : Raw) : Act Bool := do
  let w ← get
  match w.files.find w.process.here (withoutEnd path) false with
  | .error e => refuse s path e
  | .ok (.free place) =>
    Act.changeFiles (w.files.add place ⟨.directory, mode, w.now, w.now⟩).2
    if s.verbose then Act.say s!"{s.name}: created directory {quoted path}\n"
    pure true
  | .ok _ =>
    match w.files.directory? w.process.here path with
    | .ok _ => if inOrder then pure true else refuse s path .alreadyExists
    | .error _ => refuse s path .alreadyExists

def above (path : Raw) : List Raw :=
  let names := path.splitOn "/"
  let last := (names.reverse.dropWhile (· = "")).length
  (List.range (last - 1)).filterMap fun n =>
    let name := names.getD n ""
    if name = "" || name = "." then none else some ("/".intercalate (names.take (n + 1)))

def makeAbove (s : Settings) : List Raw → Act Bool
  | [] => pure true
  | path :: paths => do
    let w ← get
    match w.files.find w.process.here path with
    | .ok (.free _) =>
      if ← make s s.innerMode true path then makeAbove s paths else pure false
    | .error e => refuse s path e
    | .ok _ =>
      match w.files.directory? w.process.here path with
      | .ok _ => makeAbove s paths
      | .error e => refuse s path e

def makeAll (s : Settings) : Bool → List Raw → Act Bool
  | fine, [] => pure fine
  | fine, path :: paths => do
    let made ←
      if s.parents then
        if ← makeAbove s (above path) then make s s.mode true path else pure false
      else make s s.mode false path
    makeAll s (fine && made) paths

end Directory

def mkdir : Program := withArguments Directory.options fun name a => do
  let w ← get
  let umask := w.process.umask
  let usual := Mode.without Mode.everybody umask
  if a.operands = [] then misused name "missing operand"
  else
    match a.value? "m" with
    | none =>
      let s : Directory.Settings := ⟨name, a.has "p", a.has "v", usual, usual ||| 0o300⟩
      pure (if ← Directory.makeAll s true a.operands then 0 else 1)
    | some text =>
      match Mode.read? true umask Mode.everybody text with
      | none =>
        Act.complain s!"{name}: invalid mode {cited text}"
        pure 1
      | some mode =>
        let s : Directory.Settings := ⟨name, a.has "p", a.has "v", mode, usual ||| 0o300⟩
        pure (if ← Directory.makeAll s true a.operands then 0 else 1)

end TaskRunner.Host.Utility
