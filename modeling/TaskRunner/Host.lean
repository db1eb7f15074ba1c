import TaskRunner.Action.Process
import TaskRunner.Host.Shell.Execution

/-! A host that starts processes. It has files, a directory to start in, and a dozen programs. A
process has no input; what it writes is collected, and what it does to the files stays. -/

namespace TaskRunner

structure Host where
  files : Host.FileTree
  here : Host.Place
  environment : List (Host.Raw × Host.Raw) := []
  now : Int := 0

namespace Host

/-- The program that a path leads to. A file that is no program cannot be run. -/
def programAt (files : FileTree) (here : Place) (path : Raw) : Except Errno String :=
  match files.open? here path with
  | .ok (_, _, { body := .program name, .. }) => .ok name
  | .ok _ => .error .permissionDenied
  | .error e => .error e

/-- The program that a command starts in a directory. A name without a slash is looked up in the
directories for programs. -/
def findProgram (files : FileTree) (here : Place) (program : Raw) : Except Errno String :=
  if program.toList.contains '/' then programAt files here program
  else if program = "" then .error .noEntry
  else if FileTree.longestName < program.length then .error .nameTooLong
  else
    let found := (Shell.standardPath.splitOn ":").map fun path => programAt files here s!"{path}/{program}"
    let failed (e : Errno) : Bool := found.any fun
      | .error cause => cause = e
      | .ok _ => false
    match found.findSome? Except.toOption with
    | some name => .ok name
    | none => .error (if failed .permissionDenied then .permissionDenied else .noEntry)

def programOf (name : String) : Program := Shell.start Shell.unbounded name

def prepare (h : Host) (directory : Option String) (program : Raw) (arguments : List Raw) :
    Except Errno (Place × String) := do
  let here ←
    match directory with
    | some path => h.files.directory? h.here (Raw.ofText path)
    | none => .ok h.here
  let found ← findProgram h.files here program
  if (program :: arguments).any (Shell.longestWord < ·.length) then .error .argumentListTooLong
  else .ok (here, found)

def openedAtStart (files : FileTree) : List (Nat × OpenFile) :=
  let nothing := (files.number? ["dev", "null"]).getD 0
  [(0, { channel := .inode nothing, canRead := true, canWrite := false }),
    (1, { channel := .pipe 0, canRead := false, canWrite := true }),
    (2, { channel := .pipe 1, canRead := false, canWrite := true })]

def worldFor (h : Host) (here : Place) : World where
  files := h.files
  opened := .ofList (openedAtStart h.files) compare
  pipes := .ofList [(0, ({} : Pipe)), (1, {})] compare
  nextOpened := 3
  nextPipe := 2
  nextProcess := 1001
  now := h.now
  process :=
    { descriptors := [(0, 0), (1, 1), (2, 2)], here, environment := h.environment, number := 1000
      ancestors := [999] }

def written (w : World) (pipe : Nat) : Bytes :=
  ((w.pipes[pipe]?.getD {}).content.bytes).toList

def commandTime : Int := 10000000

def launch (directory : Option String) : OperatingSystem Host := fun c h =>
  if !c.canLaunch || directory.any Command.hasNul then (.error .nulInCommand, h)
  else
    let program := Raw.ofText c.program
    let arguments := c.arguments.map Raw.ofText
    match h.prepare directory program arguments with
    | .error e => (.error (.system e), h)
    | .ok (here, found) =>
      let finish (exitCode : Option Int) (w : World) : Except IoError ProcessEnd × Host :=
        (.ok { exitCode, output := written w 0, errors := written w 1 },
          { h with files := w.files, now := w.now + commandTime })
      match (programOf found program arguments).run (h.worldFor here) with
      | .ok code w => finish (some code) w
      | .error _ w => finish none w

def contentOf (h : Host) (path : String) : Except IoError Bytes :=
  if Command.hasNul path then .error .nulInFileName
  else
    match h.files.open? h.here (Raw.ofText path) with
    | .error e => .error (.system e)
    | .ok (_, _, inode) =>
      match inode.body with
      | .directory => .error (.system .isDirectory)
      | .file content => .ok content.bytes.toList
      | _ => .ok []

def accounts : List (Raw × Nat × Nat × Raw) :=
  [("daemon", 1, 1, "/usr/sbin"), ("bin", 2, 2, "/bin"), ("sys", 3, 3, "/dev"),
    ("sync", 4, 65534, "/bin"), ("games", 5, 60, "/usr/games"), ("man", 6, 12, "/var/cache/man"),
    ("lp", 7, 7, "/var/spool/lpd"), ("mail", 8, 8, "/var/mail"), ("news", 9, 9, "/var/spool/news"),
    ("uucp", 10, 10, "/var/spool/uucp"), ("proxy", 13, 13, "/bin"),
    ("www-data", 33, 33, "/var/www"), ("backup", 34, 34, "/var/backups"),
    ("list", 38, 38, "/var/list"), ("irc", 39, 39, "/run/ircd"),
    ("nobody", 65534, 65534, "/nonexistent")]

def accountFile : Raw :=
  "root:x:0:0:root:/root:/bin/sh\n" ++ String.join (accounts.map fun (name, user, group, home) =>
    s!"{name}:x:{user}:{group}:{name}:{home}:/usr/sbin/nologin\n")

def systemFiles : FileTree :=
  let directory (path : Raw) : Raw × Inode := (path, ⟨.directory, 0o755, 0, 0⟩)
  let device (name : Raw) (d : Device) : Raw × Inode := (s!"dev/{name}", ⟨.device d, 0o666, 0, 0⟩)
  let link (path target : Raw) : Raw × Inode := (path, ⟨.link target, 0o777, 0, 0⟩)
  let program (name : String) : Raw × Inode := (s!"usr/bin/{name}", ⟨.program name, 0o755, 0, 0⟩)
  let text (path content : Raw) : Raw × Inode :=
    (path, ⟨.file (.ofArray (Raw.toArray content)), 0o644, 0, 0⟩)
  let all :=
    ["usr/bin", "usr/sbin", "usr/lib", "usr/local/bin", "usr/local/sbin", "etc", "root", "home",
      "var", "opt", "proc/self/fd", "dev"].map directory ++
    [("tmp", ⟨.directory, 0o1777, 0, 0⟩), device "null" .null, device "zero" .zero,
      device "full" .full, device "random" .random, device "urandom" .random,
      device "tty" .terminal, link "dev/fd" "/proc/self/fd", link "dev/stdin" "/proc/self/fd/0",
      link "dev/stdout" "/proc/self/fd/1", link "dev/stderr" "/proc/self/fd/2",
      link "bin" "usr/bin", link "sbin" "usr/sbin", link "lib" "usr/lib",
      link "usr/bin/sh" "dash",
      text "etc/passwd" accountFile, text "etc/hosts" "127.0.0.1 localhost\n"] ++
    Utility.programNames.map program
  all.foldl (fun t (path, inode) => t.addBelow [] (path.splitOn "/") inode) .empty

def workPlace : Place := ["tmp", "work"]

/-- A host in a directory with these files. A path that ends in a slash is a directory, and
directories on the way to a file are made. -/
def ofFiles (files : List (String × Bytes)) : Host where
  here := workPlace
  environment := [("HOME", "/root"), ("PATH", Shell.standardPath)]
  now := 1760000000000000000
  files :=
    let now := 1760000000000000000
    let start := systemFiles.addBelow [] workPlace ⟨.directory, 0o755, now, now⟩
    files.foldl (fun t (path, content) =>
      t.addBelow workPlace (((Raw.ofText path).splitOn "/").filter (· ≠ ""))
        (if path.endsWith "/" then ⟨.directory, 0o755, now, now⟩
        else ⟨.file (.ofArray ⟨content.toArray⟩), 0o644, now, now - 1⟩)) start

def listing (h : Host) : List String := (h.files.listing h.here).map Raw.toText

end Host
end TaskRunner
