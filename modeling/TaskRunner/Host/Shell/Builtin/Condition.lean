import TaskRunner.Host.Shell.Builtin.Options
import TaskRunner.Host.Utility.Condition

/-! Conditions as the shell's own `test` reads them: operators are told from operands by where they
stand, and `-a` binds closer than `-o`. Both sides are always looked at. -/

namespace TaskRunner.Host.Shell
namespace Builtin
namespace Condition

inductive Kind where
  | unary
  | binary
  | not
  | and
  | or
  | open_
  | close
  deriving DecidableEq, Repr

def kind? (text : Raw) : Option Kind :=
  if ["=", "!=", "<", ">", "-eq", "-ne", "-ge", "-gt", "-le", "-lt", "-nt", "-ot", "-ef"].contains text
  then some .binary
  else
    match text with
    | "!" => some .not
    | "-a" => some .and
    | "-o" => some .or
    | "(" => some .open_
    | ")" => some .close
    | text =>
      match text.toList with
      | ['-', c] => if "rwxefdcbpugkstznhOGLS".toList.contains c then some .unary else none
      | _ => none

structure Reading where
  arguments : Array Raw
  position : Nat := 0

abbrev Decide := StateT Reading Run

def argument? (offset : Nat) : Decide (Option Raw) := do
  let r ← get
  pure r.arguments[r.position + offset]?

def advance (count : Nat) : Decide Unit := modify fun r => { r with position := r.position + count }

def lexed (offset : Nat) : Decide (Option (Option Kind)) := do
  match ← argument? offset with
  | none => pure none
  | some text =>
    let next ← argument? (offset + 1)
    let behind ← argument? (offset + 2)
    let isOperand : Bool :=
      match next, behind with
      | none, _ => true
      | some _, none => false
      | some next, some _ => kind? next = some .binary
    match kind? text with
    | some .unary => pure (some (if isOperand then none else some .unary))
    | some .open_ => pure (some (if next.isNone then none else some .open_))
    | kind => pure (some kind)

def refuse {α : Type} (operator : Option Raw) (message : String) : Decide α :=
  match operator with
  | some operator => Run.fail s!"{operator}: {message}"
  | none => Run.fail message

def number (text : Raw) : Decide Int :=
  match Utility.Numeral.read? (some 10) text.toList with
  | some n =>
    if n.rest.all Utility.isBlank && n.signedWord.2 then pure n.value else Run.noNumber text
  | none => Run.noNumber text

def unary (operator : Raw) : Decide Bool := do
  advance 1
  match ← argument? 0 with
  | none => refuse (some operator) "argument expected"
  | some operand =>
    match operator.toList.getLast?.getD ' ' with
    | 'z' => pure (operand = "")
    | 'n' => pure (operand ≠ "")
    | 't' => do
      let _ ← number operand
      pure false
    | letter => pure (Utility.Condition.fileHolds (← Run.world) letter operand)

def bothThere (w : World) (left right : Raw) : Bool :=
  (w.status? left).toOption.isSome && (w.status? right).toOption.isSome

def binary : Decide Bool := do
  let left := (← argument? 0).getD ""
  advance 1
  let operator := (← argument? 0).getD ""
  advance 1
  match ← argument? 0 with
  | none => refuse (some operator) "argument expected"
  | some right =>
    let compared (holds : Int → Int → Bool) : Decide Bool := do
      let l ← number left
      let r ← number right
      pure (holds l r)
    let w ← Run.world
    match operator with
    | "=" => pure (left = right)
    | "!=" => pure (left ≠ right)
    | "<" => pure (left < right)
    | ">" => pure (right < left)
    | "-eq" => compared (· = ·)
    | "-ne" => compared (· ≠ ·)
    | "-lt" => compared (· < ·)
    | "-le" => compared (· ≤ ·)
    | "-gt" => compared (fun l r => r < l)
    | "-ge" => compared (fun l r => r ≤ l)
    | "-nt" => pure (bothThere w left right && Utility.Condition.isNewer w left right)
    | "-ot" => pure (bothThere w left right && Utility.Condition.isNewer w right left)
    | _ => pure (Utility.Condition.isSame w left right)

mutual

/-- A disjunction from an argument whose meaning is known; the number bounds how deep it is nested. -/
def disjunction : Nat → Option (Option Kind) → Bool → Decide Bool
  | 0, _, found => pure found
  | most + 1, first, found => do
    let value ← conjunction most first true
    if (← lexed 1) = some (some .or) then
      advance 2
      disjunction most (← lexed 0) (found || value)
    else pure (found || value)

def conjunction : Nat → Option (Option Kind) → Bool → Decide Bool
  | 0, _, found => pure found
  | most + 1, first, found => do
    let value ← negation most first
    if (← lexed 1) = some (some .and) then
      advance 2
      conjunction most (← lexed 0) (found && value)
    else pure (found && value)

def negation : Nat → Option (Option Kind) → Decide Bool
  | 0, _ => pure false
  | most + 1, first =>
    if first = some (some .not) then do
      let next ← lexed 1
      if next ≠ none then advance 1
      pure (!(← negation most next))
    else primary most first

def primary : Nat → Option (Option Kind) → Decide Bool
  | 0, _ => pure false
  | most + 1, first => do
    match first with
    | none => pure false
    | some (some .open_) =>
      advance 1
      let next ← lexed 0
      if next = some (some .close) then pure false
      else
        let value ← disjunction most next false
        advance 1
        if (← lexed 0) ≠ some (some .close) then refuse none "closing paren expected"
        pure value
    | some kind =>
      let text := (← argument? 0).getD ""
      if kind = some .unary then unary text
      else if (← lexed 1) = some (some .binary) then binary
      else pure (text ≠ "")

end

/-- Decides arguments by their number first; `most` bounds how often that is done. -/
def byCount : Nat → Bool → List Raw → Run Bool
  | 0, inverted, _ => pure inverted
  | most + 1, inverted, arguments => do
    let count := arguments.length
    let whole (arguments : List Raw) (asOperand : Bool) : Run Bool := do
      let decide : Decide Bool := do
        let first ← if asOperand then pure (some none) else lexed 0
        disjunction (8 * count + 8) first false
      let (value, r) ← decide.run { arguments := arguments.toArray }
      match r.arguments[r.position]?, r.arguments[r.position + 1]? with
      | some operator, some _ =>
        Run.fail (if operator = "" then "unexpected operator" else s!"{operator}: unexpected operator")
      | _, _ => pure (value != inverted)
    match arguments with
    | [] => pure false
    | first :: rest =>
      if count = 3 && (rest.head?.bind kind?) = some .binary then whole arguments true
      else if count = 3 || count = 4 then
        if first = "(" && arguments.getLast? = some ")" then whole rest.dropLast false
        else if first = "!" then byCount most (!inverted) rest
        else whole arguments false
      else whole arguments false

end Condition

/-- `test`, and the same with brackets around its arguments, where whatever begins like the closing
bracket counts as one. -/
def test (name : Raw) (arguments : List Raw) : Run Nat := do
  let arguments ←
    if name.startsWith "[" then
      if arguments.getLast?.any (·.startsWith "]") then pure arguments.dropLast else Run.fail "missing ]"
    else pure arguments
  let holds ← Condition.byCount (arguments.length + 1) false arguments
  pure (if holds then 0 else 1)

end Builtin
end TaskRunner.Host.Shell
