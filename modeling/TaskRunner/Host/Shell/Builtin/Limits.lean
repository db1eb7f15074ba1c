import TaskRunner.Host.Shell.Builtin.Options
import TaskRunner.Host.Utility.Message

/-! What a process is held to: the permissions that its new files do not get, and the limits on what
it uses. A limit that was set is told again, also to children. -/

namespace TaskRunner.Host.Shell
namespace Permissions

/-- The classes that letters stand for, with the last bit of each. All of them are meant where there
is no letter. -/
def classes (before : Nat) (letters : List Char) : Nat :=
  let named := letters.foldl (fun bits c =>
    bits ||| (match c with
      | 'a' => 0o111
      | 'u' => 0o100
      | 'g' => 0o010
      | _ => 0o001)) before
  if named = 0 then 0o111 else named

def letterBits (given : Nat) : Char → Nat
  | 'r' => 4
  | 'w' => 2
  | 'x' => 1
  | 'X' => if given &&& 0o111 ≠ 0 then 1 else 0
  | 'u' => given / 64
  | 'g' => given / 8 % 8
  | 'o' => given % 8
  | _ => 0

/-- Carries out changes to permissions. Letters refer to those that were `given` before all changes;
`most` bounds the changes. -/
def change (given : Nat) : Nat → Nat → Nat → List Char → Option Nat
  | _, _, now, [] => some now
  | 0, _, _, _ => none
  | most + 1, who, now, cs =>
    let users := cs.takeWhile ("augo".toList.contains ·)
    let who := classes who users
    match cs.drop users.length with
    | [] => some now
    | operator :: cs =>
      if !"=+-".toList.contains operator then none
      else
        let letters := cs.takeWhile ("rwxugoXs".toList.contains ·)
        let bits := letters.foldl (fun bits c => bits ||| letterBits given c) 0 * who
        let now :=
          match operator with
          | '+' => now ||| bits
          | '-' => now &&& (0o777 ^^^ bits)
          | _ => (now &&& (0o777 ^^^ (who * 7))) ||| bits
        match cs.drop letters.length with
        | [] => some now
        | ',' :: cs => change given most 0 now cs
        | c :: cs => if "=+-".toList.contains c then change given most who now (c :: cs) else none

def letters (bits : Nat) : String :=
  (if bits &&& 4 ≠ 0 then "r" else "") ++ (if bits &&& 2 ≠ 0 then "w" else "") ++
    (if bits &&& 1 ≠ 0 then "x" else "")

def text (given : Nat) : Raw :=
  s!"u={letters (given / 64)},g={letters (given / 8 % 8)},o={letters (given % 8)}"

end Permissions

namespace Builtin

def umask (arguments : List Raw) : Run Nat := do
  let (options, operands) ← options "S" arguments
  let mask := (← Run.world).process.umask
  let given := 0o777 ^^^ mask
  let set (mask : Nat) : Run Unit :=
    Run.act (Act.changeProcess fun p => { p with umask := mask &&& 0o777 })
  match operands with
  | [] =>
    Run.sayLine
      (if options.isEmpty then String.ofList ('0' :: Utility.octal mask)
      else Permissions.text given)
  | text :: _ =>
    let cs := text.toList
    if cs.head?.any Char.isDigit then
      if cs.all (Utility.isDigitOf 8) then set (Utility.valueOf 8 cs) else Run.noNumber text
    else
      match Permissions.change given cs.length 0 given cs with
      | some now => set (0o777 ^^^ now)
      | none => Run.fail s!"Illegal mode: {text}"
  pure 0

/-- A limit by its letter. There is a soft value, and a hard one that it can be raised to. -/
structure Limit where
  letter : Char
  name : String
  soft : String := "unlimited"
  hard : String := "unlimited"

def limits : List Limit :=
  [⟨'t', "time(seconds)", "unlimited", "unlimited"⟩, ⟨'f', "file(blocks)", "unlimited", "unlimited"⟩,
    ⟨'d', "data(kbytes)", "unlimited", "unlimited"⟩, ⟨'s', "stack(kbytes)", "8192", "unlimited"⟩,
    ⟨'c', "coredump(blocks)", "0", "unlimited"⟩, ⟨'m', "memory(kbytes)", "unlimited", "unlimited"⟩,
    ⟨'l', "locked memory(kbytes)", "8192", "8192"⟩, ⟨'p', "process", "unlimited", "unlimited"⟩,
    ⟨'n', "nofiles", "1048576", "1048576"⟩, ⟨'v', "vmemory(kbytes)", "unlimited", "unlimited"⟩,
    ⟨'w', "locks", "unlimited", "unlimited"⟩, ⟨'r', "rtprio", "0", "0"⟩]

def Limit.value (l : Limit) (p : Process) (hard : Bool) : Raw :=
  ((p.limits.find? fun entry => entry.letter = l.letter && entry.hard = hard).map (·.value)).getD
    (if hard then l.hard else l.soft)

def ulimit (arguments : List Raw) : Run Nat := do
  let (options, operands) ← options "HSatfdsmcnpvlwr" arguments
  let all := options.map (·.1)
  let letters := all.filter fun c => c ≠ 'H' && c ≠ 'S'
  let kinds := all.filter fun c => c = 'H' || c = 'S'
  let onlyHard := kinds.getLast? = some 'H'
  let showsAll := letters.contains 'a'
  let p := (← Run.world).process
  let letter := (letters.getLast?).getD 'f'
  match operands with
  | [] =>
    if showsAll then
      for l in limits do
        let padding := String.ofList (List.replicate (20 - l.name.length) ' ')
        Run.sayLine s!"{l.name}{padding} {l.value p onlyHard}"
    else
      for l in limits.filter (·.letter = letter) do
        Run.sayLine (l.value p onlyHard)
  | [text] =>
    if showsAll then Run.fail "too many arguments"
    let digits := text.toList
    if text ≠ "unlimited" && !digits.all Char.isDigit then Run.fail "bad number"
    let value := if text = "unlimited" then text else toString (Utility.valueOf 10 digits)
    let isSet (hard : Bool) : Bool :=
      match kinds.getLast? with
      | some c => (c = 'H') = hard
      | none => true
    let entries := [true, false].filter isSet |>.map fun hard => ⟨letter, hard, value⟩
    Run.act (Act.changeProcess fun p => { p with limits := entries ++ p.limits })
  | _ => Run.fail "too many arguments"
  pure 0

end Builtin
end TaskRunner.Host.Shell
