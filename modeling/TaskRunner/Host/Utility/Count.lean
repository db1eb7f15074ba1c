import TaskRunner.Host.Utility.Arguments

/-! The utility that counts lines, words, characters and bytes, and measures the longest line. The
columns are as wide as the size of all files together asks for, and seven digits where the size of
an input is not known beforehand. -/

namespace TaskRunner.Host.Utility

structure Tally where
  lines : Nat := 0
  words : Nat := 0
  bytes : Nat := 0
  longest : Nat := 0
  width : Nat := 0
  inWord : Bool := false

namespace Tally

def endLine (t : Tally) : Tally :=
  { t with longest := max t.longest t.width, width := 0, inWord := false }

/-- Counts one byte more. A tab reaches to the next multiple of eight. What cannot be seen has no
width and begins no word, and nothing but blanks ends one. -/
def push (t : Tally) (b : UInt8) : Tally :=
  let t := { t with bytes := t.bytes + 1 }
  match b.toNat with
  | 10 => { t with lines := t.lines + 1 }.endLine
  | 13 | 12 => t.endLine
  | 9 => { t with width := t.width + (8 - t.width % 8), inWord := false }
  | 32 => { t with width := t.width + 1, inWord := false }
  | 11 => { t with inWord := false }
  | n =>
    if 32 < n && n < 127 then
      { t with
        width := t.width + 1, words := if t.inWord then t.words else t.words + 1, inWord := true }
    else t

def add (a b : Tally) : Tally :=
  { lines := a.lines + b.lines, words := a.words + b.words, bytes := a.bytes + b.bytes
    longest := max a.longest b.longest }

end Tally

namespace Count

structure Columns where
  lines : Bool
  words : Bool
  chars : Bool
  bytes : Bool
  longest : Bool

def Columns.of (c : Columns) (t : Tally) : List Nat :=
  [(c.lines, t.lines), (c.words, t.words), (c.chars, t.bytes), (c.bytes, t.bytes),
    (c.longest, t.longest)].filterMap fun column => if column.1 then some column.2 else none

def options : OptionSet where
  letters := "clLmw"
  words :=
    [("bytes", .never, "c"), ("chars", .never, "m"), ("lines", .never, "l"),
      ("words", .never, "w"), ("debug", .never, "debug"), ("files0-from", .always, "files0-from"),
      ("max-line-length", .never, "L"), ("total", .always, "total"), ("help", .never, "help"),
      ("version", .never, "version")]

def columnsOf (a : Arguments) : Columns :=
  if ["l", "w", "m", "c", "L"].any a.has then
    ⟨a.has "l", a.has "w", a.has "m", a.has "c", a.has "L"⟩
  else ⟨true, true, false, true, false⟩

def line (width : Nat) (columns : List Nat) (title : Option Raw) : Raw :=
  let column (n : Nat) : String :=
    let digits := toString n
    String.ofList (List.replicate (width - digits.length) ' ') ++ digits
  let title :=
    match title with
    | some title => " " ++ (if title.toList.contains '\n' then named title else title)
    | none => ""
  " ".intercalate (columns.map column) ++ title ++ "\n"

/-- How wide a column is for these files; no file is standard input. -/
def widthFor (w : World) (files : List (Option Raw)) (columns : Nat) : Nat :=
  let status (file : Option Raw) : Option Inode :=
    match file with
    | none | some "-" => w.describe? 0
    | some path => (w.status? path).toOption
  if files.length ≤ 1 && columns = 1 then 1
  else
    let there := files.filterMap status
    let sizes := there.map fun inode => if inode.body.isFile then inode.body.size else 0
    let size := sizes.foldl (· + ·) 0
    let least := if there.all (·.body.isFile) then 1 else 7
    max least (toString size).length

def tally (descriptor : Nat) : Nat → Tally → Act (Tally × Option Errno)
  | 0, t => pure (t, none)
  | most + 1, t => do
    match ← Act.read descriptor 131072 with
    | .error e => pure (t, some e)
    | .ok bytes =>
      if bytes.isEmpty then pure (t, none) else tally descriptor most (bytes.foldl Tally.push t)

/-- Counts a file; answers nothing for one that cannot be opened, and whether all went well. -/
def tallyFile (name : Raw) (file : Option Raw) : Act (Option Tally × Bool) := do
  let path := file.getD "-"
  let opened ← if path = "-" then pure (.ok 0) else Act.openDescriptor path { read := true }
  match opened with
  | .error e =>
    Act.complain s!"{name}: {subject path}: {e.text}"
    pure (none, false)
  | .ok descriptor =>
    let (t, fault) ← tally descriptor World.endless {}
    let shown := if path = "-" then (if file.isNone then "standard input" else "-") else named path
    match fault with
    | some e => Act.complain s!"{name}: {shown}: {e.text}"
    | none => pure ()
    pure (some t.endLine, fault.isNone)

inductive TotalLine where
  | auto
  | always
  | only
  | never
  deriving DecidableEq

def totalKinds : List (String × TotalLine) :=
  [("auto", .auto), ("always", .always), ("only", .only), ("never", .never)]

/-- Why a file name is not used; `source` is the file that it was read from, and `place` its number
there. -/
def nameFault? (source : Option Raw) (place : Nat) (file : Option Raw) : Option String :=
  match source, file with
  | some "-", some "-" =>
    some "when reading file names from stdin, no file name of '-' allowed"
  | some source, some "" => some s!"{subject source}:{place}: invalid zero-length file name"
  | none, some "" => some "invalid zero-length file name"
  | _, _ => none

structure Settings where
  name : Raw
  columns : Columns
  width : Nat
  silent : Bool
  source : Option Raw := none

def files (s : Settings) : Nat → Tally → Bool → List (Option Raw) → Act (Tally × Bool)
  | _, total, fine, [] => pure (total, fine)
  | place, total, fine, file :: rest => do
    match nameFault? s.source place file with
    | some text =>
      Act.complain s!"{s.name}: {text}"
      files s (place + 1) total false rest
    | none =>
      let (t, inOrder) ← tallyFile s.name file
      match t with
      | none => files s (place + 1) total false rest
      | some t =>
        if !s.silent then Act.say (line s.width (s.columns.of t) file)
        files s (place + 1) (total.add t) (fine && inOrder) rest

def splitNames (bytes : ByteArray) : List Raw :=
  let names := (Raw.ofArray bytes).splitOn "\x00"
  if names.getLast? = some "" then names.dropLast else names

def readNames (descriptor : Nat) : Nat → ByteArray → Act (Except Errno ByteArray)
  | 0, before => pure (.ok before)
  | most + 1, before => do
    match ← Act.read descriptor 131072 with
    | .error e => pure (.error e)
    | .ok bytes => if bytes.isEmpty then pure (.ok before) else readNames descriptor most (before ++ bytes)

end Count

def chooseWord? {α : Type} [DecidableEq α] (words : List (String × α)) (text : Raw) : Option α :=
  match words.lookup text with
  | some value => some value
  | none =>
    match words.filter (·.1.startsWith text) with
    | [] => none
    | (_, value) :: others => if others.all (·.2 = value) then some value else none

def wrongWord {α : Type} [DecidableEq α] (name : Raw) (option : String)
    (words : List (String × α)) (text : Raw) : Act Nat := do
  let kind := if words.any (·.1.startsWith text) then "ambiguous" else "invalid"
  Act.complain s!"{name}: {kind} argument {cited text} for {cited option}"
  Act.complain "Valid arguments are:"
  for value in (words.map (·.2)).eraseDups do
    let spellings := (words.filter (·.2 = value)).map fun w => cited w.1
    Act.complain ("  - " ++ ", ".intercalate spellings)
  hint name

namespace Count

/-- Counts files, whose sizes are known beforehand if `known` is set. -/
def run (name : Raw) (a : Arguments) (kind : TotalLine) (source : Option Raw) (known : Bool)
    (files : List (Option Raw)) : Act Nat := do
  let w ← get
  let columns := columnsOf a
  let width :=
    if kind = .only || !known then 1 else widthFor w files (columns.of {}).length
  let settings : Settings := ⟨name, columns, width, kind = .only, source⟩
  let (total, fine) ← Count.files settings 1 {} true files
  let hasTotal : Bool :=
    match kind with
    | .auto => 1 < files.length
    | .always | .only => true
    | .never => false
  if hasTotal then
    Act.say (line width (columns.of total) (if kind = .only then none else some "total"))
  if files.any (·.getD "-" = "-") && (w.describe? 0).isNone then
    Act.complain s!"{name}: -: {Errno.badDescriptor.text}"
    pure 1
  else pure (if fine then 0 else 1)

def runNamed (name : Raw) (a : Arguments) (kind : TotalLine) (source : Raw) : Act Nat := do
  let opened ← if source = "-" then pure (.ok 0) else Act.openDescriptor source { read := true }
  match opened with
  | .error e =>
    Act.complain s!"{name}: cannot open {quoted source} for reading: {e.text}"
    pure 1
  | .ok descriptor =>
    let known := ((← get).describe? descriptor).any (·.body.isFile)
    match ← readNames descriptor World.endless .empty with
    | .error e =>
      Act.complain s!"{name}: {subject source}: read error: {e.text}"
      pure 1
    | .ok bytes => run name a kind (some source) known ((splitNames bytes).map some)

end Count

def Count.wrongTotal? (a : Arguments) : Option Raw :=
  a.requests.findSome? fun
    | .option "total" (some text) =>
      if (chooseWord? Count.totalKinds text).isNone then some text else none
    | _ => none

def wc : Program := closing fun name arguments => do
  let a ← argumentsOf Count.options arguments
  match Count.wrongTotal? a, a.fault? with
  | some text, _ => wrongWord name "--total" Count.totalKinds text
  | none, some text => misused name text
  | none, none =>
    let kind := ((a.value? "total").bind (chooseWord? Count.totalKinds)).getD .auto
    match a.value? "files0-from", a.operands with
    | none, [] => Count.run name a kind none true [none]
    | none, operands => Count.run name a kind none true (operands.map some)
    | some source, [] => Count.runNamed name a kind source
    | some _, operand :: _ =>
      Act.complain s!"{name}: extra operand {cited operand}"
      Act.complain "file operands cannot be combined with --files0-from"
      hint name

end TaskRunner.Host.Utility
