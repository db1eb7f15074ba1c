import TaskRunner.Host.FileTree

/-! What a running program can see and change. A process has descriptors, which lead to open files;
an open file has an object or a pipe behind it and remembers how far it was read or written.
Processes run one after the other: one that writes to a pipe has ended before the one that reads
from it begins. A pipe can have a limit, beyond which writing ends the writer as if nobody read any
more; a reader that comes upon the limit leaves a mark, and the two are run again with more room. -/

namespace TaskRunner.Host

inductive Channel where
  | inode (number : Nat)
  | pipe (number : Nat)
  deriving DecidableEq, Repr

structure OpenFile where
  channel : Channel
  offset : Nat := 0
  canRead : Bool
  canWrite : Bool
  append : Bool := false
  deriving Repr

structure Pipe where
  content : Content := {}
  taken : Nat := 0
  limit : Option Nat := none
  cut : Bool := false
  starved : Bool := false

structure SetLimit where
  letter : Char
  hard : Bool
  value : Raw
  deriving Repr

structure Process where
  descriptors : List (Nat × Nat) := []
  here : Place := []
  umask : Nat := 0o022
  limits : List SetLimit := []
  environment : List (Raw × Raw) := []
  number : Nat := 1
  ancestors : List Nat := []
  unsaid : Option Errno := none

structure Signal where
  number : Nat
  deriving DecidableEq, Repr

structure World where
  files : FileTree
  opened : Std.TreeMap Nat OpenFile := {}
  pipes : Std.TreeMap Nat Pipe := {}
  nextOpened : Nat := 0
  nextPipe : Nat := 0
  nextProcess : Nat := 2
  now : Int := 0
  clock : Nat := 0
  deadline : Option Nat := none
  process : Process := {}
  signals : List (Nat × Signal) := []

namespace Signal

def arithmetic : Signal := ⟨8⟩
def kill : Signal := ⟨9⟩
def brokenPipe : Signal := ⟨13⟩

def status (s : Signal) : Nat := 128 + s.number

end Signal

/-- Something that a process does. A signal ends it, and what was done before stays. -/
abbrev Act := EStateM Signal World

abbrev Program := Raw → List Raw → Act Nat

structure Opening where
  read : Bool := false
  write : Bool := false
  create : Bool := false
  exclusive : Bool := false
  truncate : Bool := false
  append : Bool := false

namespace World

def endless : Nat := 1000000000000

def openFile? (w : World) (descriptor : Nat) : Option OpenFile :=
  match w.process.descriptors.lookup descriptor with
  | some id => w.opened[id]?
  | none => none

def timeToFork : Nat := 100

def timeToLoad : Nat := 500

def pipeObject : Inode := ⟨.pipe, 0o600, 0, 0⟩

def status? (w : World) (path : Raw) (through : Bool := true) : Except Errno Inode :=
  match w.files.find w.process.here path through with
  | .ok (.inode _ number) =>
    match w.files.inode? number with
    | some inode => .ok inode
    | none => .error .noEntry
  | .ok (.descriptor number) =>
    match w.openFile? number with
    | some file =>
      match file.channel with
      | .inode number =>
        match w.files.inode? number with
        | some inode => .ok inode
        | none => .error .noEntry
      | .pipe _ => .ok pipeObject
    | none => .error .noEntry
  | .ok (.free _) => .error .noEntry
  | .error e => .error e

def describe? (w : World) (descriptor : Nat) : Option Inode :=
  match w.openFile? descriptor with
  | none => none
  | some file =>
    match file.channel with
    | .inode number => w.files.inode? number
    | .pipe _ => some pipeObject

end World

namespace Act

/-- Lets time pass. A process on trial ends when its time is over. -/
def spend (time : Nat) : Act Unit := do
  let w ← get
  set { w with clock := w.clock + time }
  if w.deadline.any (· < w.clock + time) then throw .kill

def changeFiles (files : FileTree) : Act Unit := modify fun w => { w with files }

def changeProcess (change : Process → Process) : Act Unit :=
  modify fun w => { w with process := change w.process }

def register (file : OpenFile) : Act Nat := do
  let w ← get
  set { w with opened := w.opened.insert w.nextOpened file, nextOpened := w.nextOpened + 1 }
  pure w.nextOpened

def attach (descriptor id : Nat) : Act Unit :=
  changeProcess fun p =>
    { p with descriptors := (descriptor, id) :: p.descriptors.filter (·.1 ≠ descriptor) }

def detach (descriptor : Nat) : Act Unit :=
  changeProcess fun p => { p with descriptors := p.descriptors.filter (·.1 ≠ descriptor) }

def newPipe (limit : Option Nat) : Act Nat := do
  let w ← get
  set { w with pipes := w.pipes.insert w.nextPipe { limit }, nextPipe := w.nextPipe + 1 }
  pure w.nextPipe

def pipe (number : Nat) : Act Pipe := return (← get).pipes[number]?.getD {}

def setPipe (number : Nat) (pipe : Pipe) : Act Unit :=
  modify fun w => { w with pipes := w.pipes.insert number pipe }

def openInode (number : Nat) (inode : Inode) (how : Opening) : Act (Except Errno Nat) := do
  let file : OpenFile :=
    { channel := .inode number, canRead := how.read, canWrite := how.write, append := how.append }
  match inode.body with
  | .directory => if how.write then pure (.error .isDirectory) else .ok <$> register file
  | .device .terminal => pure (.error .noDevice)
  | .file _ =>
    if how.truncate then
      modify fun w =>
        { w with
          files := w.files.setInode number { inode with body := .file {}, modified := w.now } }
    .ok <$> register file
  | _ => .ok <$> register file

/-- Opens a path; answers the number of the open file. A new file can be read and written as far as
`mode` and the process have it. -/
def openPath (path : Raw) (how : Opening) (mode : Nat := 0o666) : Act (Except Errno Nat) := do
  let w ← get
  match w.files.find w.process.here path with
  | .error e => pure (.error e)
  | .ok (.inode _ number) =>
    if how.create && how.exclusive then pure (.error .alreadyExists)
    else
      match w.files.inode? number with
      | some inode => openInode number inode how
      | none => pure (.error .noEntry)
  | .ok (.descriptor number) =>
    match w.openFile? number with
    | none => pure (.error .noEntry)
    | some file =>
      match file.channel with
      | .pipe _ =>
        .ok <$> register { channel := file.channel, canRead := how.read, canWrite := how.write }
      | .inode number =>
        match w.files.inode? number with
        | some inode => openInode number inode how
        | none => pure (.error .noEntry)
  | .ok (.free place) =>
    if !how.create then pure (.error .noEntry)
    else if path.endsWith "/" then pure (.error .isDirectory)
    else
      let mode := mode &&& (0o777 ^^^ w.process.umask)
      let (number, files) := w.files.add place ⟨.file {}, mode, w.now, w.now⟩
      set { w with files }
      .ok <$> register
        { channel := .inode number, canRead := how.read, canWrite := how.write
          append := how.append }

def freeDescriptor (start : Nat) : Act Nat := do
  let taken := (← get).process.descriptors.map (·.1)
  pure (((List.range (taken.length + 1)).map (start + ·)).find? (!taken.contains ·) |>.getD start)

def openDescriptor (path : Raw) (how : Opening) : Act (Except Errno Nat) := do
  match ← openPath path how with
  | .error e => pure (.error e)
  | .ok id =>
    let descriptor ← freeDescriptor 0
    attach descriptor id
    pure (.ok descriptor)

def take (id : Nat) (file : OpenFile) (count : Nat) : Act (Except Errno ByteArray) := do
  let w ← get
  match file.channel with
  | .pipe number =>
    let pipe ← pipe number
    let content := pipe.content.joined
    let bytes := content.bytes.extract pipe.taken (pipe.taken + count)
    setPipe number
      { pipe with
        content, taken := pipe.taken + bytes.size
        starved := pipe.starved || (bytes.isEmpty && pipe.cut && count ≠ 0) }
    pure (.ok bytes)
  | .inode number =>
    match w.files.inode? number with
    | none => pure (.error .noEntry)
    | some inode =>
      match inode.body with
      | .directory => pure (.error .isDirectory)
      | .device .zero | .device .full => pure (.ok ⟨Array.replicate count 0⟩)
      | .device .random => pure (.ok ⟨Array.replicate count 0x5a⟩)
      | .file content =>
        let joined := content.joined
        let bytes := joined.bytes.extract file.offset (file.offset + count)
        let stale := inode.accessed ≤ inode.modified && count ≠ 0
        let accessed := if stale then w.now + 1 else inode.accessed
        let files :=
          match stale, content.parts with
          | true, _ | _, _ :: _ :: _ =>
            w.files.setInode number { inode with body := .file joined, accessed }
          | _, _ => w.files
        set { w with
          files, opened := w.opened.insert id { file with offset := file.offset + bytes.size } }
        pure (.ok bytes)
      | _ => pure (.ok .empty)

/-- Reads at most so many bytes from a descriptor; none are left at the end. -/
def read (descriptor count : Nat) : Act (Except Errno ByteArray) := do
  let w ← get
  match w.process.descriptors.lookup descriptor with
  | none => pure (.error .badDescriptor)
  | some id =>
    match w.opened[id]? with
    | some file => if file.canRead then take id file count else pure (.error .badDescriptor)
    | none => pure (.error .badDescriptor)

def writePipe (number : Nat) (bytes : ByteArray) : Act Unit := do
  let pipe ← pipe number
  match pipe.limit with
  | none => setPipe number { pipe with content := pipe.content.push bytes }
  | some limit =>
    if pipe.content.size + bytes.size ≤ limit then
      setPipe number { pipe with content := pipe.content.push bytes }
    else
      let room := limit - pipe.content.size
      setPipe number { pipe with content := pipe.content.push (bytes.extract 0 room), cut := true }
      throw .brokenPipe

def put (id : Nat) (file : OpenFile) (bytes : ByteArray) : Act (Except Errno Unit) := do
  match file.channel with
  | .pipe number =>
    writePipe number bytes
    pure (.ok ())
  | .inode number =>
    let w ← get
    match w.files.inode? number with
    | none => pure (.error .noEntry)
    | some inode =>
      match inode.body with
      | .device .full => pure (if bytes.isEmpty then .ok () else .error .noSpace)
      | .file content =>
        let offset := if file.append then content.size else file.offset
        let inode := { inode with body := .file (content.write offset bytes), modified := w.now }
        set { w with
          files := w.files.setInode number inode
          opened := w.opened.insert id { file with offset := offset + bytes.size } }
        pure (.ok ())
      | _ => pure (.ok ())

def write (descriptor : Nat) (bytes : ByteArray) : Act (Except Errno Unit) := do
  let w ← get
  match w.process.descriptors.lookup descriptor with
  | none => pure (.error .badDescriptor)
  | some id =>
    match w.opened[id]? with
    | some file => if file.canWrite then put id file bytes else pure (.error .badDescriptor)
    | none => pure (.error .badDescriptor)

/-- Writes bytes to standard output; a failure is kept for the end. -/
def sayBytes (bytes : ByteArray) : Act Unit := do
  if bytes.isEmpty then pure ()
  else
    match ← write 1 bytes with
    | .ok _ => pure ()
    | .error e => changeProcess fun p => { p with unsaid := p.unsaid.or (some e) }

def say (text : Raw) : Act Unit := sayBytes (Raw.toArray text)

def complain (text : Raw) : Act Unit := do
  let _ ← write 2 (Raw.toArray (text ++ "\n"))

/-- Puts bytes that were read and not used back in front of a descriptor. A pipe keeps none. -/
def unread (descriptor count : Nat) : Act Unit := do
  let w ← get
  match w.process.descriptors.lookup descriptor with
  | none => pure ()
  | some id =>
    match w.opened[id]? with
    | some file =>
      set { w with opened := w.opened.insert id { file with offset := file.offset - count } }
    | none => pure ()

/-- Runs the body of a child. The child has the descriptors, the directory and the environment of
its parent, who does not see how the child changes them. -/
def inChild {α : Type} (body : Act α) : Act (Except Signal α) := do
  spend World.timeToFork
  fun w =>
    let process :=
      { w.process with
        number := w.nextProcess, ancestors := w.process.number :: w.process.ancestors
        unsaid := none }
    match body { w with process, nextProcess := w.nextProcess + 1 } with
    | .ok value after => .ok (.ok value) { after with process := w.process }
    | .error signal after => .ok (.error signal) { after with process := w.process }

end Act
end TaskRunner.Host
