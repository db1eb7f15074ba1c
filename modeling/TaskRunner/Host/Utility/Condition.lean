import TaskRunner.Host.Utility.Message
import TaskRunner.Host.Utility.Number

/-! Conditions on texts, numbers and files, as `test` decides them. Up to four arguments are read by
their number; more are read as an expression, in which `-a` binds closer than `-o`. -/

namespace TaskRunner.Host.Utility
namespace Condition

inductive Fault where
  | missingAfter (argument : Raw)
  | unaryExpected (argument : Raw)
  | binaryExpected (argument : Raw)
  | notAnInteger (text : Raw)
  | closingExpected
  | closingExpectedBefore (argument : Raw)
  | leftOver (argument : Raw)
  | lengthRefused (operator : Raw)
  deriving DecidableEq, Repr

def Fault.message : Fault → String
  | .missingAfter argument => s!"missing argument after {cited argument}"
  | .unaryExpected argument => s!"{cited argument}: unary operator expected"
  | .binaryExpected argument => s!"{cited argument}: binary operator expected"
  | .notAnInteger text => s!"invalid integer {cited text}"
  | .closingExpected => "')' expected"
  | .closingExpectedBefore argument => s!"')' expected, found {cited argument}"
  | .leftOver argument => s!"extra argument {cited argument}"
  | .lengthRefused operator => s!"{operator} does not accept -l"

structure Reading where
  before : Raw
  rest : List Raw

abbrev Read := EStateM Fault Reading

def next : Read Raw := do
  let r ← get
  match r.rest with
  | argument :: rest =>
    set { r with before := argument, rest }
    pure argument
  | [] => throw (.missingAfter r.before)

def advance : Read Unit := do
  let argument ← next
  let r ← get
  if r.rest.isEmpty then throw (.missingAfter argument) else pure ()

def isBinary (operator : Raw) : Bool :=
  ["=", "==", "!=", "-nt", "-ot", "-ef", "-eq", "-ne", "-lt", "-le", "-gt", "-ge"].contains operator

def numberOperators : List String := ["-eq", "-ne", "-lt", "-le", "-gt", "-ge"]

/-- Whether an object is what an operator asks for. Everything can be read and written; a file can
be run only if that is among its permissions. -/
def holds (operator : Char) (inode : Inode) : Bool :=
  match operator with
  | 'e' | 'r' | 'w' | 'O' | 'G' => true
  | 'x' => inode.body.isDirectory || inode.mode &&& 0o111 ≠ 0
  | 'f' => inode.body.isFile
  | 'd' => inode.body.isDirectory
  | 's' => inode.body.isDirectory || inode.body.size ≠ 0
  | 'c' =>
    match inode.body with
    | .device _ => true
    | _ => false
  | 'p' =>
    match inode.body with
    | .pipe => true
    | _ => false
  | 'L' | 'h' =>
    match inode.body with
    | .link _ => true
    | _ => false
  | 'u' => inode.mode &&& 0o4000 ≠ 0
  | 'g' => inode.mode &&& 0o2000 ≠ 0
  | 'k' => inode.mode &&& 0o1000 ≠ 0
  | 'N' => inode.accessed < inode.modified
  | _ => false

def fileHolds (w : World) (operator : Char) (path : Raw) : Bool :=
  match w.status? path (operator ≠ 'L' && operator ≠ 'h') with
  | .ok inode => holds operator inode
  | .error _ => false

/-- Compares the times of two files; one that is not there is older than any that is. -/
def isNewer (w : World) (left right : Raw) : Bool :=
  match w.status? left, w.status? right with
  | .ok l, .ok r => r.modified < l.modified
  | .ok _, .error _ => true
  | .error _, _ => false

def channelOf (w : World) (path : Raw) : Option Channel :=
  match w.files.find w.process.here path with
  | .ok (.inode _ number) => some (.inode number)
  | .ok (.descriptor number) => (w.openFile? number).map (·.channel)
  | _ => none

def isSame (w : World) (left right : Raw) : Bool :=
  (channelOf w left).isSome && channelOf w left = channelOf w right

def integer? (text : Raw) : Option Int :=
  match Numeral.read? (some 10) text.toList with
  | some n => if n.rest.all isBlank then some n.value else none
  | none => none

def integerOf (text : Raw) : Read Int :=
  match integer? text with
  | some value => pure value
  | none => throw (.notAnInteger text)

def compare (operator : Raw) (left right : Int) : Bool :=
  match operator with
  | "-eq" => left = right
  | "-ne" => left ≠ right
  | "-lt" => left < right
  | "-le" => left ≤ right
  | "-gt" => right < left
  | _ => right ≤ left

/-- A binary condition. A number can be given as the length of a text, behind `-l`. -/
def binary (w : World) (leftLength : Bool) : Read Bool := do
  if leftLength then let _ ← next
  let left ← next
  let operator ← next
  let rightLength := decide (((← get).rest.head? = some "-l") ∧ 2 ≤ (← get).rest.length)
  if rightLength then let _ ← next
  let right ← next
  let refuseLength : Read Unit :=
    if leftLength || rightLength then throw (.lengthRefused operator) else pure ()
  if numberOperators.contains operator then
    let l ← if leftLength then pure (left.length : Int) else integerOf left
    let r ← if rightLength then pure (right.length : Int) else integerOf right
    pure (compare operator l r)
  else
    match operator with
    | "-nt" => do
      refuseLength
      pure (isNewer w left right)
    | "-ot" => do
      refuseLength
      pure (isNewer w right left)
    | "-ef" => do
      refuseLength
      pure (isSame w left right)
    | "!=" => pure (left ≠ right)
    | _ => pure (left = right)

def unary (w : World) : Read Bool := do
  let operator ← next
  let c := operator.toList.getLast?.getD ' '
  if !"bcdefghknprstuwxzLNOGS".toList.contains c then throw (.unaryExpected operator)
  else
    let operand ← next
    match c with
    | 'n' => pure (operand ≠ "")
    | 'z' => pure (operand = "")
    | 't' => do
      let _ ← integerOf operand
      pure false
    | c => pure (fileHolds w c operand)

def looksUnary (argument : Raw) : Bool :=
  match argument.toList with
  | ['-', _] => true
  | _ => false

def one : Read Bool := return (← next) ≠ ""

def two (w : World) : Read Bool := do
  let r ← get
  match r.rest with
  | "!" :: _ => do
    let _ ← next
    pure (!(← one))
  | argument :: rest =>
    if looksUnary argument then unary w
    else throw (.missingAfter ((argument :: rest).getLastD ""))
  | [] => throw (.missingAfter r.before)

mutual

/-- A disjunction of conjunctions; `most` bounds how deep it is nested. -/
def expression (w : World) : Nat → Read Bool
  | 0 => throw (.missingAfter "")
  | most + 1 => do
    let value ← conjunction w most
    match (← get).rest with
    | "-o" :: _ =>
      let _ ← next
      let other ← expression w most
      pure (value || other)
    | _ => pure value

def conjunction (w : World) : Nat → Read Bool
  | 0 => throw (.missingAfter "")
  | most + 1 => do
    let value ← term w most
    match (← get).rest with
    | "-a" :: _ =>
      let _ ← next
      let other ← conjunction w most
      pure (value && other)
    | _ => pure value

def term (w : World) : Nat → Read Bool
  | 0 => throw (.missingAfter "")
  | most + 1 => do
    let r ← get
    match r.rest with
    | [] => throw (.missingAfter r.before)
    | "!" :: _ =>
      advance
      pure (!(← term w most))
    | "(" :: _ =>
      advance
      let inside := (← get).rest
      let ahead := (inside.drop 1).takeWhile (· ≠ ")")
      let count := ahead.length + 1
      let count := if 4 < count then inside.length else count
      let value ← byCount w most count
      match (← get).rest with
      | [] => throw .closingExpected
      | ")" :: _ =>
        let _ ← next
        pure value
      | argument :: _ => throw (.closingExpectedBefore argument)
    | ["-l", _] => unary w
    | "-l" :: _ :: operator :: _ :: _ =>
      if isBinary operator then binary w true else simple w
    | _ => simple w

def simple (w : World) : Read Bool := do
  match (← get).rest with
  | first :: second :: _ :: _ =>
    if isBinary second then binary w false
    else if looksUnary first then unary w
    else one
  | first :: _ => if looksUnary first then unary w else one
  | [] => one

def byCount (w : World) : Nat → Nat → Read Bool
  | 0, _ => throw (.missingAfter "")
  | most + 1, count => do
    let r ← get
    match count, r.rest with
    | 1, _ => one
    | 2, _ => two w
    | 3, _ => three w most
    | 4, "!" :: _ =>
      advance
      pure (!(← three w most))
    | 4, "(" :: _ :: _ :: ")" :: _ =>
      let _ ← next
      let value ← two w
      let _ ← next
      pure value
    | 0, _ => throw (.missingAfter r.before)
    | _, _ => expression w most

def three (w : World) : Nat → Read Bool
  | 0 => throw (.missingAfter "")
  | most + 1 => do
    match (← get).rest with
    | first :: second :: third :: _ =>
      if isBinary second then binary w false
      else if first = "!" then
        advance
        pure (!(← two w))
      else if first = "(" && third = ")" then
        let _ ← next
        let value ← one
        let _ ← next
        pure value
      else if second = "-a" || second = "-o" then expression w most
      else throw (.binaryExpected second)
    | _ => one

end

def decideAll (w : World) (name : Raw) (arguments : List Raw) : Except Fault Bool :=
  if arguments = [] then .ok false
  else
    match (byCount w (8 * arguments.length + 8) arguments.length).run ⟨name, arguments⟩ with
    | .ok value r =>
      match r.rest with
      | [] => .ok value
      | argument :: _ => .error (.leftOver argument)
    | .error fault _ => .error fault

end Condition

def judge (name : Raw) (arguments : List Raw) : Act Nat := do
  match Condition.decideAll (← get) name arguments with
  | .ok value => pure (if value then 0 else 1)
  | .error fault =>
    Act.complain s!"{name}: {fault.message}"
    pure 2

def test : Program := closing judge

/-- `test` with a bracket behind its arguments. -/
def bracket : Program := closing fun name arguments =>
  if arguments.getLast? = some "]" then judge name arguments.dropLast
  else do
    Act.complain s!"{name}: missing ']'"
    pure 2

end TaskRunner.Host.Utility
