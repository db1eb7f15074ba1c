import TaskRunner.Host.Utility.Count
import TaskRunner.Host.Utility.Date

/-! The utility that sets the times of files, and makes the files that are not there. -/

namespace TaskRunner.Host.Utility
namespace Touch

def options : OptionSet where
  letters := "acfhm"
  valued := "drt"
  words :=
    [("time", .always, "time"), ("no-create", .never, "c"), ("date", .always, "d"),
      ("reference", .always, "r"), ("no-dereference", .never, "h"), ("help", .never, "help"),
      ("version", .never, "version")]

inductive Which where
  | access
  | change
  deriving DecidableEq

def timeWords : List (String × Which) :=
  [("atime", .access), ("access", .access), ("use", .access), ("mtime", .change),
    ("modify", .change)]

structure Times where
  accessed : Option Int
  modified : Option Int

def setTimes (times : Times) (number : Nat) : Act Unit := do
  let w ← get
  match w.files.inode? number with
  | none => pure ()
  | some inode =>
    Act.changeFiles (w.files.setInode number
      { inode with
        accessed := times.accessed.getD inode.accessed
        modified := times.modified.getD inode.modified })

def withoutSlashes (path : Raw) : Raw :=
  String.ofList (path.toList.reverse.dropWhile (· = '/')).reverse

/-- Sets the times of one file. One that is not there is made if `create` is set, and passed over in
silence if `silent` is. -/
def touchOne (name : Raw) (create silent : Bool) (times : Times) (path : Raw) : Act Bool := do
  let w ← get
  let refuse (what : String) (e : Errno) : Act Bool := do
    Act.complain s!"{name}: {what} {quoted path}: {e.text}"
    pure false
  let notThere (e : Errno) : Act Bool :=
    if silent && e = .noEntry then pure true else refuse "setting times of" e
  if path = "-" then
    match w.openFile? 1 with
    | none => if silent then pure true else refuse "setting times of" .badDescriptor
    | some file =>
      match file.channel with
      | .inode number => setTimes times number
      | .pipe _ => pure ()
      pure true
  else
    match w.files.find w.process.here path with
    | .ok (.inode _ number) =>
      setTimes times number
      pure true
    | .ok (.descriptor _) => pure true
    | .ok (.free _) =>
      if !create || path.endsWith "/" then notThere .noEntry
      else
        match ← Act.openDescriptor path { write := true, create := true } with
        | .error e => refuse "cannot touch" e
        | .ok descriptor =>
          let w ← get
          match w.openFile? descriptor with
          | some { channel := .inode number, .. } => setTimes times number
          | _ => pure ()
          Act.detach descriptor
          pure true
    | .error e =>
      let reachable := path.endsWith "/" && (w.files.find w.process.here (withoutSlashes path)).isOk
      if create && !reachable then refuse "cannot touch" e else notThere e

def touchAll (name : Raw) (create silent : Bool) (times : Times) : Bool → List Raw → Act Bool
  | fine, [] => pure fine
  | fine, path :: paths => do
    let touched ← touchOne name create silent times path
    touchAll name create silent times (fine && touched) paths

inductive Fault where
  | text (message : String)
  | usage (message : String)
  | word (text : Raw)

/-- The times that `-t` and `-d` tell, and which times are meant, from the options in order. -/
structure Settings where
  access : Bool := false
  change : Bool := false
  stamp : Option Int := none

def apply (now : Int) (s : Settings) : List Request → Except Fault Settings
  | [] => .ok s
  | .fault text :: _ => .error (.usage text)
  | .option option value :: rest =>
    match option, value with
    | "a", _ => apply now { s with access := true } rest
    | "m", _ => apply now { s with change := true } rest
    | "t", some text =>
      match stamp? now text with
      | some stamp => apply now { s with stamp := some stamp } rest
      | none => .error (.text s!"invalid date format {cited text}")
    | "time", some text =>
      match chooseWord? timeWords text with
      | some .access => apply now { s with access := true } rest
      | some .change => apply now { s with change := true } rest
      | none => .error (.word text)
    | _, _ => apply now s rest

def timesOf (w : World) (a : Arguments) (s : Settings) : Except String (Int × Int) :=
  let reference : Except String (Option Inode) :=
    match a.value? "r" with
    | none => .ok none
    | some path =>
      match w.status? path with
      | .ok inode => .ok (some inode)
      | .error e => .error s!"failed to get attributes of {quoted path}: {e.text}"
  match reference with
  | .error text => .error text
  | .ok reference =>
    match a.value? "d" with
    | some text =>
      let base (time : Inode → Int) : Int := (reference.map time).getD w.now
      match date? (base (·.accessed)) text, date? (base (·.modified)) text with
      | some accessed, some modified => .ok (accessed, modified)
      | _, _ => .error s!"invalid date format {cited text}"
    | none =>
      match reference with
      | some inode => .ok (inode.accessed, inode.modified)
      | none => .ok (s.stamp.getD w.now, s.stamp.getD w.now)

end Touch

def touch : Program := closing fun name arguments => do
  let a ← argumentsOf Touch.options arguments
  let w ← get
  match Touch.apply w.now {} a.requests with
  | .error (.usage text) => misused name text
  | .error (.word text) => wrongWord name "--time" Touch.timeWords text
  | .error (.text text) =>
    Act.complain s!"{name}: {text}"
    pure 1
  | .ok s =>
    if s.stamp.isSome && (a.has "r" || a.has "d") then
      misused name "cannot specify times from more than one source"
    else
      match Touch.timesOf w a s with
      | .error text =>
        Act.complain s!"{name}: {text}"
        pure 1
      | .ok (accessed, modified) =>
        if a.operands = [] then misused name "missing file operand"
        else
          let both := s.access = s.change
          let times : Touch.Times :=
            ⟨if both || s.access then some accessed else none,
              if both || s.change then some modified else none⟩
          let silent := a.has "c"
          let create := !silent && !a.has "h"
          pure (if ← Touch.touchAll name create silent times true a.operands then 0 else 1)

end TaskRunner.Host.Utility
