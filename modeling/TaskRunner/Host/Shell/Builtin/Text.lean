import TaskRunner.Host.Shell.Builtin.Options
import TaskRunner.Host.Shell.Fields
import TaskRunner.Host.Shell.Lexer
import TaskRunner.Host.Utility.Print

/-! Commands that write and read text. `read` takes a line byte by byte, so that what is behind it is
left for others. -/

namespace TaskRunner.Host.Shell
namespace Builtin

/-- Writes arguments with blanks between them, and a newline at the end unless it is left out. An
escape can end everything. -/
def echoFrom (newline : Bool) : List Raw → Run Unit
  | [] => if newline then Run.say "\n" else pure ()
  | argument :: rest => do
    let (shown, ending) := Utility.unescape Utility.Escape.shellArgument argument.toList
    Run.say (String.ofList shown)
    if ending = .complete then
      match rest with
      | [] => echoFrom newline []
      | rest =>
        Run.say " "
        echoFrom newline rest

def echo (arguments : List Raw) : Run Nat := do
  match arguments with
  | "-n" :: arguments => echoFrom false arguments
  | arguments => echoFrom true arguments
  pure 0

def putPrinted (code : Nat) : List Utility.Printed → Run Unit
  | [] => pure ()
  | .text shown :: rest => do
    Run.say (String.ofList shown)
    putPrinted code rest
  | .complaint message :: rest => do
    if rest.isEmpty && code = 2 then Run.fail message
    Run.warn message
    putPrinted code rest

def printf (arguments : List Raw) : Run Nat := do
  match ← operands arguments with
  | [] => Run.fail "usage: printf format [arg ...]"
  | format :: arguments =>
    let (items, code) := Utility.printed Utility.shellPrinting format arguments
    putPrinted code items
    pure code

/-- A line while it is read. Characters behind a backslash stand for themselves. -/
structure ReadLine where
  segments : List Segment := []
  glyphs : List Glyph := []

namespace ReadLine

def close (l : ReadLine) : ReadLine :=
  { segments := ⟨.atSeparators, l.glyphs.reverse⟩ :: l.segments }

def glyph (c : Char) : Glyph := if isControl c then .guarded c else .char c

end ReadLine

/-- Reads a line from standard input; answers also whether it had an end. -/
def readLine (raw : Bool) : Nat → ReadLine → Bool → Run (List Segment × Bool)
  | 0, line, _ => pure (line.close.segments.reverse, false)
  | most + 1, line, behindBackslash => do
    let byte ←
      match ← Run.act (Act.read 0 1) with
      | .ok bytes => pure bytes.toList.head?
      | .error _ => pure none
    match byte with
    | none => pure (line.close.segments.reverse, false)
    | some b =>
      let c := Raw.charOf b
      if c = '\x00' then readLine raw most line behindBackslash
      else if behindBackslash then
        let closed := line.close
        if c = '\n' then readLine raw most closed false
        else
          let guarded : Segment := ⟨.never, [ReadLine.glyph c]⟩
          readLine raw most { closed with segments := guarded :: closed.segments } false
      else if c = '\\' && !raw then readLine raw most line true
      else if c = '\n' then pure (line.close.segments.reverse, true)
      else readLine raw most { line with glyphs := ReadLine.glyph c :: line.glyphs } false

/-- Gives fields to variables; variables without a field become empty. -/
def assignFields : List Raw → List (List Glyph) → Run Unit
  | [], _ => pure ()
  | name :: names, [] => do
    Run.set name (some "")
    assignFields names []
  | name :: names, field :: rest => do
    Run.set name (some (String.ofList (Glyph.text field)))
    assignFields names rest

def read (arguments : List Raw) : Run Nat := do
  let (options, names) ← options "r" arguments "p"
  if names.isEmpty then Run.fail "arg count"
  let (line, complete) ← readLine (options.any (·.1 = 'r')) unbounded {} false
  let separators := ((← Run.value? "IFS").getD " \t\n").toList
  assignFields names (fields separators line (some names.length))
  pure (if complete then 0 else 1)

end Builtin
end TaskRunner.Host.Shell
