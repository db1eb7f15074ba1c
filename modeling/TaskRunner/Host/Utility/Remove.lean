import TaskRunner.Host.Utility.Count

/-! The utility that removes files, and directories with what is in them. Before something is
removed it can ask, and reads a line as the answer. -/

namespace TaskRunner.Host.Utility
namespace Remove

inductive Asking where
  | never
  | once
  | always
  deriving DecidableEq

structure Settings where
  name : Raw
  asking : Asking := .once
  askFirst : Bool := false
  ignoreMissing : Bool := false
  recursive : Bool := false
  emptyDirectories : Bool := false
  verbose : Bool := false
  guardRoot : Bool := true

def options : OptionSet where
  letters := "dfirvIR"
  words :=
    [("force", .never, "f"), ("interactive", .maybe, "interactive"),
      ("one-file-system", .never, "one"), ("no-preserve-root", .never, "no-preserve-root"),
      ("preserve-root", .maybe, "preserve-root"), ("-presume-input-tty", .never, "tty"),
      ("recursive", .never, "r"), ("dir", .never, "d"), ("verbose", .never, "v"),
      ("help", .never, "help"), ("version", .never, "version")]

def askingWords : List (String × Asking) :=
  [("never", .never), ("no", .never), ("none", .never), ("once", .once), ("always", .always),
    ("yes", .always)]

inductive Fault where
  | usage (message : String)
  | text (message : String)
  | word (text : Raw)

def apply (s : Settings) : List Request → Except Fault Settings
  | [] => .ok s
  | .fault text :: _ => .error (.usage text)
  | .option option value :: rest =>
    let chosen (s : Settings) (asking : Asking) : Settings :=
      match asking with
      | .never => { s with asking := .never, askFirst := false }
      | .once => { s with asking := .once, ignoreMissing := false, askFirst := true }
      | .always => { s with asking := .always, ignoreMissing := false, askFirst := false }
    match option with
    | "d" => apply { s with emptyDirectories := true } rest
    | "f" => apply { s with asking := .never, ignoreMissing := true, askFirst := false } rest
    | "i" => apply (chosen s .always) rest
    | "I" => apply (chosen s .once) rest
    | "r" | "R" => apply { s with recursive := true } rest
    | "v" => apply { s with verbose := true } rest
    | "no-preserve-root" => apply { s with guardRoot := false } rest
    | "preserve-root" =>
      match value with
      | none | some "all" => apply { s with guardRoot := true } rest
      | some text =>
        .error (.text s!"unrecognized --preserve-root argument: {quoted text}")
    | "interactive" =>
      match value with
      | none => apply (chosen s .always) rest
      | some text =>
        match chooseWord? askingWords text with
        | some asking => apply (chosen s asking) rest
        | none => .error (.word text)
    | _ => apply s rest

/-- The first line of what is left to read; `most` bounds its length. -/
def readLine : Nat → List UInt8 → Act (List UInt8)
  | 0, line => pure line.reverse
  | most + 1, line => do
    match ← Act.read 0 1 with
    | .error _ => pure line.reverse
    | .ok bytes =>
      match bytes.toList with
      | [] => pure line.reverse
      | b :: _ => if b = 10 then pure line.reverse else readLine most (b :: line)

def ask (question : String) : Act Bool := do
  let _ ← Act.write 2 (Raw.toArray question)
  let answer ← readLine World.endless []
  pure (answer.head? = some 121 || answer.head? = some 89)

def kindOf (inode : Inode) : String :=
  match inode.body with
  | .file content => if content.size = 0 then "regular empty file" else "regular file"
  | .program _ => "regular file"
  | .directory => "directory"
  | .device _ => "character special file"
  | .link _ => "symbolic link"
  | .pipe => "fifo"

inductive Outcome where
  | removed
  | declined
  | failed
  deriving DecidableEq

def refuse (s : Settings) (path : Raw) (e : Errno) : Act Outcome := do
  Act.complain s!"{s.name}: cannot remove {quoted path}: {e.text}"
  pure .failed

def takeAway (s : Settings) (place : Place) (path : Raw) (isDirectory : Bool) : Act Outcome := do
  let w ← get
  if isDirectory && !(w.files.namesIn place).isEmpty then refuse s path .directoryNotEmpty
  else
    Act.changeFiles (w.files.remove place w.now)
    if s.verbose then
      Act.say ((if isDirectory then "removed directory " else "removed ") ++ quoted path ++ "\n")
    pure .removed

def below (path : Raw) (name : Raw) : Raw :=
  (if path.endsWith "/" then path else path ++ "/") ++ name

mutual

/-- Removes an object at a place; `most` bounds how deep directories are nested. -/
def removeAt (s : Settings) : Nat → Place → Raw → Inode → Act Outcome
  | 0, _, _, _ => pure .failed
  | most + 1, place, path, inode => do
    let w ← get
    if inode.body.isDirectory then
      let names := w.files.namesIn place
      if !s.recursive && !(s.emptyDirectories && names.isEmpty) then
        refuse s path (if s.emptyDirectories then .directoryNotEmpty else .isDirectory)
      else if s.asking = .always then
        if names.isEmpty then
          if ← ask s!"{s.name}: remove directory {quoted path}? " then takeAway s place path true
          else pure .declined
        else if ← ask s!"{s.name}: descend into directory {quoted path}? " then
          match ← removeNames s most place path names .removed with
          | .removed =>
            if ← ask s!"{s.name}: remove directory {quoted path}? " then
              takeAway s place path true
            else pure .declined
          | outcome => pure outcome
        else pure .declined
      else
        match ← removeNames s most place path names .removed with
        | .removed => takeAway s place path true
        | outcome => pure outcome
    else if s.asking = .always then
      if ← ask s!"{s.name}: remove {kindOf inode} {quoted path}? " then
        takeAway s place path false
      else pure .declined
    else takeAway s place path false

/-- Removes what is in a directory. What stays makes the directory stay. -/
def removeNames (s : Settings) : Nat → Place → Raw → List Raw → Outcome → Act Outcome
  | 0, _, _, _, outcome => pure outcome
  | _, _, _, [], outcome => pure outcome
  | most + 1, place, path, name :: names, outcome => do
    let w ← get
    let inner := place ++ [name]
    let result ←
      match (w.files.number? inner).bind w.files.inode? with
      | some inode => removeAt s most inner (below path name) inode
      | none => pure .removed
    let outcome :=
      match outcome, result with
      | .failed, _ | _, .failed => .failed
      | .declined, _ | _, .declined => .declined
      | .removed, .removed => .removed
    removeNames s most place path names outcome

end

def lastName (path : Raw) : Raw := ((path.splitOn "/").filter (· ≠ "")).getLast?.getD ""

def removePath (s : Settings) (path : Raw) : Act Outcome := do
  let w ← get
  let missing (e : Errno) : Act Outcome :=
    if s.ignoreMissing && (e = .noEntry || e = .notDirectory) then pure .removed
    else refuse s path e
  match w.files.find w.process.here path false with
  | .error e => missing e
  | .ok (.free _) | .ok (.descriptor _) => missing .noEntry
  | .ok (.inode place number) =>
    match w.files.inode? number with
    | none => missing .noEntry
    | some inode =>
      let isDirectory := inode.body.isDirectory
      if path.endsWith "/" && !isDirectory then missing .notDirectory
      else if isDirectory && s.recursive && ["." , ".."].contains (lastName path) then
        Act.complain
          s!"{s.name}: refusing to remove '.' or '..' directory: skipping {quoted path}"
        pure .failed
      else if isDirectory && s.recursive && s.guardRoot && place = [] then
        let same := if path = "/" then "" else " (same as '/')"
        Act.complain s!"{s.name}: it is dangerous to operate recursively on {quoted path}{same}"
        Act.complain s!"{s.name}: use --no-preserve-root to override this failsafe"
        pure .failed
      else removeAt s World.endless place path inode

def removeAll (s : Settings) : Bool → List Raw → Act Bool
  | fine, [] => pure fine
  | fine, path :: paths => do
    let outcome ← removePath s path
    removeAll s (fine && outcome ≠ .failed) paths

def hyphenHints (name : Raw) : List Raw → Act Unit
  | [] => pure ()
  | argument :: rest => do
    let w ← get
    if argument.startsWith "-" && (w.files.open? w.process.here argument false).isOk then
      Act.complain
        s!"Try '{name} ./{named argument}' to remove the file {quoted argument}."
    hyphenHints name rest

end Remove

open Remove in
def rm : Program := closing fun name arguments => do
  let a ← argumentsOf Remove.options arguments
  match Remove.apply { name } a.requests with
  | .error (.usage text) =>
    Act.complain s!"{name}: {text}"
    hyphenHints name arguments
    hint name
  | .error (.word text) => wrongWord name "--interactive" askingWords text
  | .error (.text text) =>
    Act.complain s!"{name}: {text}"
    pure 1
  | .ok s =>
    let count := a.operands.length
    let full := "--no-preserve-root"
    if !s.guardRoot && arguments.any fun text => "--n".isPrefixOf text && text ≠ full &&
        text.isPrefixOf full then
      Act.complain s!"{name}: you may not abbreviate the {full} option"
      pure 1
    else if count = 0 then if s.ignoreMissing then pure 0 else misused name "missing operand"
    else
      let goesOn ←
        if s.askFirst && (s.recursive || 3 < count) then
          let noun := if count = 1 then "argument" else "arguments"
          let how := if s.recursive then " recursively" else ""
          ask s!"{name}: remove {count} {noun}{how}? "
        else pure true
      if goesOn then pure (if ← removeAll s true a.operands then 0 else 1) else pure 0

end TaskRunner.Host.Utility
