import TaskRunner.Host.Utility.Arguments

/-! The utility that shows files one after the other. Lines can be numbered, all or those that are
not empty, runs of empty lines can be cut down to one, and line ends, tabs and other characters that
cannot be seen can be marked. Numbers and runs go on from one file to the next. -/

namespace TaskRunner.Host.Utility

structure CatStyle where
  numberAll : Bool
  numberFilled : Bool
  squeeze : Bool
  showEnds : Bool
  showTabs : Bool
  showHidden : Bool

namespace CatStyle

def isPlain (style : CatStyle) : Bool :=
  !(style.numberAll || style.numberFilled || style.squeeze || style.showEnds || style.showTabs ||
    style.showHidden)

end CatStyle

/-- How far showing has come. Inside a line `empty` is nothing, at the start of one the number of
empty lines before it. A carriage return is held back until it is known what follows. -/
structure CatState where
  number : Nat := 0
  empty : Option Nat := some 0
  heldReturn : Bool := false
  shown : List Char := []

namespace CatState

def add (s : CatState) (cs : List Char) : CatState := { s with shown := cs.reverse ++ s.shown }

def addNumber (s : CatState) : CatState :=
  let digits := Nat.toDigits 10 (s.number + 1)
  { s with number := s.number + 1 }.add (List.replicate (6 - digits.length) ' ' ++ digits ++ ['\t'])

/-- A character that cannot be seen, as a caret and a letter; one beyond ASCII by the character
that it is above. -/
def visible (n : Nat) : List Char :=
  if 128 ≤ n then ['M', '-'] ++ low (n - 128) else low n
where
  low (n : Nat) : List Char :=
    if n < 32 then ['^', Char.ofNat (n + 64)] else if n = 127 then ['^', '?'] else [Char.ofNat n]

def newline (style : CatStyle) (s : CatState) : CatState :=
  let empty :=
    match s.empty with
    | none => 0
    | some n => n + 1
  if 2 ≤ empty && style.squeeze then { s with empty := some 2 }
  else
    let s := if 0 < empty && style.numberAll && !style.numberFilled then s.addNumber else s
    let s :=
      if style.showEnds then
        { s with heldReturn := false }.add (if s.heldReturn then ['^', 'M', '$'] else ['$'])
      else s
    { s with empty := some (min empty 2) }.add ['\n']

def character (style : CatStyle) (s : CatState) (c : Char) : CatState :=
  let s := if s.heldReturn then { s with heldReturn := false }.add ['\r'] else s
  let s := if s.empty.isSome && (style.numberAll || style.numberFilled) then s.addNumber else s
  let s := { s with empty := none }
  if c = '\t' then s.add (if style.showTabs then ['^', 'I'] else [c])
  else if style.showHidden then s.add (visible c.toNat)
  else if c = '\r' && style.showEnds then { s with heldReturn := true }
  else s.add [c]

def step (style : CatStyle) (s : CatState) (c : Char) : CatState :=
  if c = '\n' then s.newline style else s.character style c

end CatState

namespace Cat

def options : OptionSet where
  letters := "beEnstuvAT"
  words :=
    [("number-nonblank", .never, "b"), ("number", .never, "n"), ("squeeze-blank", .never, "s"),
      ("show-nonprinting", .never, "v"), ("show-ends", .never, "E"), ("show-tabs", .never, "T"),
      ("show-all", .never, "A"), ("help", .never, "help"), ("version", .never, "version")]

def styleOf (a : Arguments) : CatStyle :=
  { numberAll := a.has "n", numberFilled := a.has "b", squeeze := a.has "s"
    showEnds := ["A", "e", "E"].any a.has
    showTabs := ["A", "t", "T"].any a.has
    showHidden := ["A", "e", "t", "v"].any a.has }

inductive Outcome where
  | shown (state : CatState)
  | unreadable (cause : Errno) (state : CatState)
  | unwritable (cause : Errno)

/-- Shows what is left to read; `most` bounds the number of parts. -/
def show? (style : CatStyle) (descriptor : Nat) : Nat → CatState → Act Outcome
  | 0, s => pure (.shown s)
  | most + 1, s => do
    match ← Act.read descriptor 131072 with
    | .error e => pure (.unreadable e s)
    | .ok bytes =>
      if bytes.isEmpty then pure (.shown s)
      else
        let s :=
          if style.isPlain then s
          else bytes.foldl (fun s b => s.step style (Raw.charOf b)) { s with shown := [] }
        let out := if style.isPlain then bytes else Raw.toArray (String.ofList s.shown.reverse)
        match ← Act.write 1 out with
        | .error e => pure (.unwritable e)
        | .ok _ => show? style descriptor most s

def isOutput (w : World) (descriptor : Nat) : Bool :=
  match w.openFile? descriptor, w.openFile? 1 with
  | some input, some output =>
    match input.channel, w.describe? 1 with
    | .inode _, some { body := .file content, .. } =>
      input.channel = output.channel &&
        input.offset < (if output.append then content.size else output.offset)
    | _, _ => false
  | _, _ => false

def files (name : Raw) (style : CatStyle) (code : Nat) : CatState → List Raw → Act (Nat × CatState)
  | s, [] => pure (code, s)
  | s, file :: rest => do
    let opened ← if file = "-" then pure (.ok 0) else Act.openDescriptor file { read := true }
    let go (code : Nat) (s : CatState) := files name style code s rest
    match opened with
    | .error e =>
      Act.complain s!"{name}: {subject file}: {e.text}"
      go 1 s
    | .ok descriptor =>
      let w ← get
      if (w.describe? descriptor).isNone then
        Act.complain s!"{name}: {subject file}: {Errno.badDescriptor.text}"
        go 1 s
      else if isOutput w descriptor then
        Act.complain s!"{name}: {subject file}: input file is output file"
        go 1 s
      else
        match ← show? style descriptor World.endless s with
        | .shown s => go code s
        | .unreadable e s =>
          Act.complain s!"{name}: {subject file}: {e.text}"
          go 1 s
        | .unwritable e =>
          Act.complain s!"{name}: write error: {e.text}"
          pure (1, { s with heldReturn := false })

end Cat

def cat : Program := withArguments Cat.options fun name a => do
  let w ← get
  if (w.describe? 1).isNone then
    Act.complain s!"{name}: standard output: {Errno.badDescriptor.text}"
    pure 1
  else
    let operands := if a.operands = [] then ["-"] else a.operands
    let (code, s) ← Cat.files name (Cat.styleOf a) 0 {} operands
    if s.heldReturn then Act.say "\r"
    if operands.contains "-" && (w.describe? 0).isNone then
      Act.complain s!"{name}: closing standard input: {Errno.badDescriptor.text}"
      pure 1
    else pure code

end TaskRunner.Host.Utility
