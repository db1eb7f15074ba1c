import TaskRunner.Host.Utility.Arguments
import TaskRunner.Host.Utility.Number

/-! The utility that shows the beginning of files: so many lines or bytes, or all but so many at the
end. What was read beyond the last line that is shown is put back where that can be done. -/

namespace TaskRunner.Host.Utility
namespace Head

structure Amount where
  inBytes : Bool := false
  fromEnd : Bool := false
  count : Nat := 10
  lineEnd : UInt8 := 10

inductive Titles where
  | several
  | always
  | never
  deriving DecidableEq

structure Settings where
  amount : Amount := {}
  titles : Titles := .several

/-- How many bytes the first so many lines have; `none` if there are fewer lines. -/
def lengthOfLines (bytes : ByteArray) (lineEnd : UInt8) : Nat → Nat → Nat → Option Nat
  | _, _, 0 => none
  | position, lines, most + 1 =>
    if bytes.size ≤ position then none
    else if bytes[position]! = lineEnd then
      if lines ≤ 1 then some (position + 1)
      else lengthOfLines bytes lineEnd (position + 1) (lines - 1) most
    else lengthOfLines bytes lineEnd (position + 1) lines most

def linesIn (bytes : ByteArray) (lineEnd : UInt8) : Nat :=
  bytes.foldl (fun n b => if b = lineEnd then n + 1 else n) 0

def showBytes (descriptor : Nat) : Nat → Nat → Act (Except Errno Unit)
  | 0, _ | _, 0 => pure (.ok ())
  | most + 1, count => do
    match ← Act.read descriptor (min count 8192) with
    | .error e => pure (.error e)
    | .ok bytes =>
      if bytes.isEmpty then pure (.ok ())
      else
        Act.sayBytes bytes
        showBytes descriptor most (count - bytes.size)

def showLines (descriptor : Nat) (lineEnd : UInt8) : Nat → Nat → Act (Except Errno Unit)
  | 0, _ | _, 0 => pure (.ok ())
  | most + 1, lines => do
    match ← Act.read descriptor 8192 with
    | .error e => pure (.error e)
    | .ok bytes =>
      if bytes.isEmpty then pure (.ok ())
      else
        match lengthOfLines bytes lineEnd 0 lines (bytes.size + 1) with
        | some length =>
          Act.unread descriptor (bytes.size - length)
          Act.sayBytes (bytes.extract 0 length)
          pure (.ok ())
        | none =>
          Act.sayBytes bytes
          showLines descriptor lineEnd most (lines - linesIn bytes lineEnd)

def readAll (descriptor : Nat) : Nat → ByteArray → Act (Except Errno ByteArray)
  | 0, before => pure (.ok before)
  | most + 1, before => do
    match ← Act.read descriptor 131072 with
    | .error e => pure (.error e)
    | .ok bytes =>
      if bytes.isEmpty then pure (.ok before) else readAll descriptor most (before ++ bytes)

/-- How many bytes are left without the lines at the end. A last line without its end counts. -/
def lengthWithout (bytes : ByteArray) (lineEnd : UInt8) (count : Nat) : Nat :=
  let open? := 0 < bytes.size && bytes[bytes.size - 1]! ≠ lineEnd
  let lines := linesIn bytes lineEnd + (if open? then 1 else 0)
  if lines ≤ count then 0
  else (lengthOfLines bytes lineEnd 0 (lines - count) (bytes.size + 1)).getD bytes.size

def showStart (amount : Amount) (descriptor : Nat) : Act (Except Errno Unit) := do
  if amount.fromEnd then
    match ← readAll descriptor World.endless .empty with
    | .error e => pure (.error e)
    | .ok bytes =>
      let length :=
        if amount.inBytes then bytes.size - amount.count
        else lengthWithout bytes amount.lineEnd amount.count
      Act.sayBytes (bytes.extract 0 length)
      pure (.ok ())
  else if amount.inBytes then showBytes descriptor World.endless amount.count
  else showLines descriptor amount.lineEnd World.endless amount.count

def files (name : Raw) (amount : Amount) (titles : Bool) (first : Bool) (code : Nat) :
    List Raw → Act Nat
  | [] => pure code
  | file :: rest => do
    let opened ← if file = "-" then pure (.ok 0) else Act.openDescriptor file { read := true }
    match opened with
    | .error e =>
      Act.complain s!"{name}: cannot open {quoted file} for reading: {e.text}"
      files name amount titles first 1 rest
    | .ok descriptor =>
      let title := if file = "-" then "standard input" else file
      if titles then Act.say ((if first then "" else "\n") ++ s!"==> {title} <==\n")
      match ← showStart amount descriptor with
      | .ok _ =>
        match (← get).process.unsaid with
        | none => files name amount titles false code rest
        | some e =>
          -- the output is given up at once
          Act.changeProcess fun p => { p with unsaid := none }
          Act.complain s!"{name}: error writing 'standard output': {e.text}"
          pure 1
      | .error e =>
        Act.complain s!"{name}: error reading {quoted title}: {e.text}"
        files name amount titles false 1 rest

def options : OptionSet where
  letters := "qvz0123456789"
  valued := "cn"
  words :=
    [("bytes", .always, "c"), ("lines", .always, "n"), ("-presume-input-pipe", .never, "pipe"),
      ("quiet", .never, "q"), ("silent", .never, "q"), ("verbose", .never, "v"),
      ("zero-terminated", .never, "z"), ("help", .never, "help"), ("version", .never, "version")]

def setCount (s : Settings) (inBytes fromEnd : Bool) (text : Raw) : Except String Settings :=
  match readCount text.toList with
  | .ok count =>
    .ok { s with amount := { s.amount with inBytes, fromEnd, count } }
  | .error fault =>
    let what := if inBytes then "bytes" else "lines"
    let why :=
      match fault with
      | .invalid => ""
      | .overflow => s!": {Errno.text ⟨75⟩}"
    .error s!"invalid number of {what}: {cited text}{why}"

def trailing (s : Settings) (inBytes : Bool) (unit : String) :
    List Char → Except Char (Settings × Bool × String)
  | [] => .ok (s, inBytes, unit)
  | c :: cs =>
    match c with
    | 'c' => trailing s true "" cs
    | 'b' | 'k' | 'm' => trailing s true c.toString cs
    | 'l' => trailing s false unit cs
    | 'q' => trailing { s with titles := .never } inBytes unit cs
    | 'v' => trailing { s with titles := .always } inBytes unit cs
    | 'z' => trailing { s with amount := { s.amount with lineEnd := 0 } } inBytes unit cs
    | c => .error c

abbrev Fault := String × Bool

def readOld (arguments : List Raw) : Except Fault (Settings × List Raw) :=
  match arguments with
  | argument :: rest =>
    match argument.toList with
    | '-' :: c :: cs =>
      if c.isDigit then
        let digits := (c :: cs).takeWhile Char.isDigit
        match trailing {} false "" ((c :: cs).drop digits.length) with
        | .error letter => .error (s!"invalid trailing option -- {letter}", true)
        | .ok (s, inBytes, unit) =>
          match setCount s inBytes false (String.ofList digits ++ unit) with
          | .ok s => .ok (s, rest)
          | .error text => .error (text, false)
      else .ok ({}, arguments)
    | _ => .ok ({}, arguments)
  | [] => .ok ({}, [])

def apply (s : Settings) : List Request → Except Fault Settings
  | [] => .ok s
  | .fault text :: _ => .error (text, true)
  | .option option value :: rest =>
    match option, value with
    | "c", some text | "n", some text =>
      let (fromEnd, count) :=
        match text.toList with
        | '-' :: cs => (true, String.ofList cs)
        | cs => (false, String.ofList cs)
      match setCount s (option = "c") fromEnd count with
      | .ok s => apply s rest
      | .error text => .error (text, false)
    | "q", _ => apply { s with titles := .never } rest
    | "v", _ => apply { s with titles := .always } rest
    | "z", _ => apply { s with amount := { s.amount with lineEnd := 0 } } rest
    | option, _ =>
      if option.toList.all Char.isDigit then
        .error (s!"invalid trailing option -- {option}", true)
      else apply s rest

end Head

def head : Program := closing fun name arguments => do
  let refuse (fault : Head.Fault) : Act Nat :=
    if fault.2 then misused name fault.1
    else do
      Act.complain s!"{name}: {fault.1}"
      pure 1
  match Head.readOld arguments with
  | .error fault => refuse fault
  | .ok (settings, arguments) =>
    let a ← argumentsOf Head.options arguments
    match Head.apply settings a.requests with
    | .error fault => refuse fault
    | .ok settings =>
      let operands := if a.operands = [] then ["-"] else a.operands
      let titles :=
        match settings.titles with
        | .always => true
        | .never => false
        | .several => 1 < operands.length
      let code ← Head.files name settings.amount titles true 0 operands
      if operands.contains "-" && ((← get).describe? 0).isNone then
        Act.complain s!"{name}: -: {Errno.badDescriptor.text}"
        pure 1
      else pure code

end TaskRunner.Host.Utility
