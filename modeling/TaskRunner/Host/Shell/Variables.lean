import TaskRunner.Host.Shell.State
import TaskRunner.Host.Utility.Number

/-! The variables of a shell. Some of them are watched: the place of the next option starts anew when
its variable is set, and commands are looked for again when the path changes. What becomes local gets
its old value back when the function ends. -/

namespace TaskRunner.Host.Shell

def count? (text : Raw) : Option Nat :=
  match Utility.Numeral.read? (some 10) text.toList with
  | some n =>
    if n.rest.all Utility.isBlank && 0 ≤ n.value && n.value ≤ 2147483647 then some n.value.toNat
    else none
  | none => none

namespace Run

def noNumber {α : Type} (text : Raw) : Run α := fail s!"Illegal number: {text}"

def count (text : Raw) : Run Nat :=
  match count? text with
  | some n => pure n
  | none => noNumber text

def value? (name : Raw) : Run (Option Raw) := return (← shell).bindings[name]?.bind (·.value)

def watch (name : Raw) (value : Option Raw) : Run Unit := do
  if name = "OPTIND" then
    let index ← count (value.getD "")
    change fun s => { s with optionIndex := if index = 0 then 1 else index, optionOffset := none }
  else if name = "PATH" then change fun s => { s with found := [] }
  else pure ()

/-- Sets a variable, or takes its value away; `watched` tells others about it. -/
def assign (name : Raw) (value : Option Raw) (exported : Bool := false) (readOnly : Bool := false)
    (watched : Bool := true) : Run Unit := do
  let s ← shell
  let exported := exported || s.options.contains "allexport"
  let before := s.bindings[name]?
  if before.any (·.readOnly) then fail s!"{name}: is read only"
  if before.isSome && watched then watch name value
  if value = none && !exported && !readOnly then
    change fun s => { s with bindings := s.bindings.erase name }
  else
    let exported := exported || before.any (·.exported)
    change fun s => { s with bindings := s.bindings.insert name { value, exported, readOnly } }

def namePart (text : Raw) : Raw :=
  match text.toList with
  | c :: cs => if isNameStart c then String.ofList (c :: cs.takeWhile isNameChar) else ""
  | [] => ""

def splitAssignment (text : Raw) : Raw × Option Raw :=
  let name := text.toList.takeWhile (· ≠ '=')
  match text.toList.drop name.length with
  | _ :: value => (String.ofList name, some (String.ofList value))
  | [] => (String.ofList name, none)

/-- Sets a variable that may have no proper name. What stands behind an equals sign does not count. -/
def set (text : Raw) (value : Option Raw) (exported : Bool := false) (readOnly : Bool := false) :
    Run Unit := do
  let (name, _) := splitAssignment text
  if name = "" || namePart name ≠ name then fail s!"{name}: bad variable name"
  else assign name value exported readOnly

def unset (name : Raw) : Run Unit := set name none

def assignText (text : Raw) (exported : Bool := false) : Run Unit := do
  let (name, value) := splitAssignment text
  assign name value exported

def remember (outer : Outer) : Run Unit :=
  change fun s =>
    match s.frames with
    | frame :: frames => { s with frames := (outer :: frame) :: frames }
    | [] => s

def makeLocal (text : Raw) (exported : Bool) : Run Unit := do
  let s ← shell
  if text = "-" then remember (.options s.options)
  else
    let (name, value) := splitAssignment text
    let before := s.bindings[name]?
    match before, value with
    | none, none =>
      if namePart name ≠ name || name = "" then fail s!"{name}: bad variable name"
      change fun s => { s with bindings := s.bindings.insert name { value := none, exported } }
    | none, some value => assign name (some value) exported
    | some _, none => pure ()
    | some _, some value => assign name (some value) exported
    remember (.variable name before)

def giveBack : Outer → Run Unit
  | .options before => change fun s => { s with options := before }
  | .variable name none => do
    change fun s => { s with bindings := s.bindings.erase name }
    if namePart name ≠ name || name = "" then fail s!"{name}: bad variable name"
  | .variable name (some before) => do
    watch name before.value
    change fun s => { s with bindings := s.bindings.insert name before }

def leaveFrames (depth : Nat) : Run Unit := do
  let frames := (← shell).frames
  let left := frames.take (frames.length - depth)
  change fun s => { s with frames := s.frames.drop (frames.length - depth) }
  for frame in left do
    for outer in frame do
      giveBack outer

def exportedVariables : Run (List (Raw × Raw)) := do
  let s ← shell
  pure (s.bindings.toList.filterMap fun (name, v) =>
    match v.exported, v.value with
    | true, some value => some (name, value)
    | _, _ => none)

end Run
end TaskRunner.Host.Shell
