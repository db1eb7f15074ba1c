import TaskRunner.Host.Shell.Variables

/-! Calculations with words of sixty-four bits. Operators bind as in C; a variable stands for the
number that its value is. What a condition leaves out is read and not carried out. -/

namespace TaskRunner.Host.Shell
namespace Arithmetic

inductive Operator where
  | multiply
  | divide
  | remainder
  | add
  | subtract
  | shiftLeft
  | shiftRight
  | less
  | lessEqual
  | greater
  | greaterEqual
  | equal
  | unequal
  | bitAnd
  | bitXor
  | bitOr
  deriving DecidableEq, Repr

namespace Operator

def rank : Operator → Nat
  | multiply | divide | remainder => 0
  | add | subtract => 1
  | shiftLeft | shiftRight => 2
  | less | lessEqual | greater | greaterEqual => 3
  | equal | unequal => 4
  | bitAnd => 5
  | bitXor => 6
  | bitOr => 7

def combines : Operator → Bool
  | multiply | divide | remainder | add | subtract | shiftLeft | shiftRight | bitAnd | bitXor
  | bitOr => true
  | _ => false

def spelling : List (String × Operator) :=
  [("<<", shiftLeft), (">>", shiftRight), ("<=", lessEqual), (">=", greaterEqual), ("==", equal),
    ("!=", unequal), ("*", multiply), ("/", divide), ("%", remainder), ("+", add),
    ("-", subtract), ("<", less), (">", greater), ("&", bitAnd), ("^", bitXor), ("|", bitOr)]

end Operator

inductive Token where
  | number (value : Int64)
  | name (name : Raw)
  | operator (o : Operator)
  | assign (o : Option Operator)
  | and_
  | or_
  | not_
  | complement
  | open_
  | close
  | question
  | colon
  | bad
  deriving DecidableEq, Repr

def punctuation : List (List Char × Token) :=
  ["<<", ">>"].filterMap (fun text =>
    (Operator.spelling.lookup text).map fun o => ((text ++ "=").toList, .assign (some o))) ++
  [("&&", .and_), ("||", .or_)].map (fun (text, token) => (text.toList, token)) ++
  (Operator.spelling.filter (·.1.length = 2)).map (fun (text, o) => (text.toList, .operator o)) ++
  (Operator.spelling.filter (fun e => e.1.length = 1 && e.2.combines)).map
    (fun (text, o) => ((text ++ "=").toList, .assign (some o))) ++
  (Operator.spelling.filter (·.1.length = 1)).map (fun (text, o) => (text.toList, .operator o)) ++
  [(['='], .assign none), (['!'], .not_), (['~'], .complement), (['('], .open_), ([')'], .close),
    (['?'], .question), ([':'], .colon)]

/-- The tokens of a text, up to one that has no meaning. `most` bounds their number and is the length
of the text. -/
def tokens : Nat → List Char → List Token
  | 0, _ => []
  | most + 1, cs =>
    match cs.dropWhile (fun c => c = ' ' || c = '\t' || c = '\n') with
    | [] => []
    | c :: rest =>
      if c.isDigit then
        match Utility.Numeral.read? none (c :: rest) with
        | some n => .number (Int64.ofInt n.signedWord.1) :: tokens most n.rest
        | none => [.bad]
      else if isNameStart c then
        let name := c :: rest.takeWhile isNameChar
        .name (String.ofList name) :: tokens most (rest.drop (name.length - 1))
      else
        match punctuation.find? (fun entry => entry.1.isPrefixOf (c :: rest)) with
        | some (text, token) => token :: tokens most ((c :: rest).drop text.length)
        | none => [.bad]

def ofBool (b : Bool) : Int64 := if b then 1 else 0

def fault {α : Type} (text : Raw) (message : String) : Run α :=
  Run.fail s!"arithmetic expression: {message}: \"{text}\""

/-- Joins two numbers; `text` is the calculation, for complaints. -/
def calculate (text : Raw) (o : Operator) (a b : Int64) : Run Int64 :=
  match o with
  | .divide | .remainder =>
    if b = 0 then fault text "division by zero"
    else if a = Int64.minValue && b = -1 then throw (.killed Signal.arithmetic)
    else pure (if o = .divide then a / b else a % b)
  | .multiply => pure (a * b)
  | .add => pure (a + b)
  | .subtract => pure (a - b)
  | .shiftLeft => pure (a <<< b)
  | .shiftRight => pure (a >>> b)
  | .less => pure (ofBool (a < b))
  | .lessEqual => pure (ofBool (a ≤ b))
  | .greater => pure (ofBool (b < a))
  | .greaterEqual => pure (ofBool (b ≤ a))
  | .equal => pure (ofBool (a = b))
  | .unequal => pure (ofBool (a ≠ b))
  | .bitAnd => pure (a &&& b)
  | .bitXor => pure (a ^^^ b)
  | .bitOr => pure (a ||| b)

/-- The number that the value of a variable is; none counts as zero. -/
def valueOf (name : Raw) : Run Int64 := do
  let value := (← Run.value? name).getD ""
  match Utility.Numeral.read? none value.toList with
  | some n =>
    if n.rest.all Utility.isBlank && n.signedWord.2 then pure (Int64.ofInt n.signedWord.1)
    else Run.noNumber value
  | none => if value.toList.all Utility.isBlank then pure 0 else Run.noNumber value

def store (name : Raw) (value : Int64) : Run Int64 := do
  Run.set name (some (toString value.toInt))
  pure value

mutual

/-- Reads an assignment or a condition; `idle` keeps it from being carried out. Every reader answers
the value and the tokens behind it; the number bounds how deep they are nested. -/
def assignment (text : Raw) : Nat → Bool → List Token → Run (Int64 × List Token)
  | 0, _, _ => fault text "expecting primary"
  | most + 1, idle, tokens =>
    match tokens with
    | .name name :: .assign o :: rest => do
      let (result, rest) ← assignment text most idle rest
      if idle then pure (result, rest)
      else
        let result ←
          match o with
          | none => pure result
          | some o => do calculate text o (← valueOf name) result
        pure (← store name result, rest)
    | tokens => condition text most idle tokens

def condition (text : Raw) : Nat → Bool → List Token → Run (Int64 × List Token)
  | 0, _, _ => fault text "expecting primary"
  | most + 1, idle, tokens => do
    let (a, rest) ← disjunction text most idle tokens
    match rest with
    | .question :: rest =>
      let (b, rest) ← assignment text most (idle || a = 0) rest
      match rest with
      | .colon :: rest =>
        let (c, rest) ← condition text most (idle || a ≠ 0) rest
        pure (if a ≠ 0 then b else c, rest)
      | _ => fault text "expecting ':'"
    | rest => pure (a, rest)

def disjunction (text : Raw) : Nat → Bool → List Token → Run (Int64 × List Token)
  | 0, _, _ => fault text "expecting primary"
  | most + 1, idle, tokens => do
    let (a, rest) ← conjunction text most idle tokens
    match rest with
    | .or_ :: rest =>
      let (b, rest) ← disjunction text most (idle || a ≠ 0) rest
      pure (ofBool (a ≠ 0 || b ≠ 0), rest)
    | rest => pure (a, rest)

def conjunction (text : Raw) : Nat → Bool → List Token → Run (Int64 × List Token)
  | 0, _, _ => fault text "expecting primary"
  | most + 1, idle, tokens => do
    let (a, rest) ← term text most idle tokens
    match rest with
    | .and_ :: rest =>
      let (b, rest) ← conjunction text most (idle || a = 0) rest
      pure (ofBool (a ≠ 0 && b ≠ 0), rest)
    | rest => pure (a, rest)

def term (text : Raw) : Nat → Bool → List Token → Run (Int64 × List Token)
  | 0, _, _ => fault text "expecting primary"
  | most + 1, idle, tokens => do
    let (a, rest) ← primary text most idle tokens
    match rest with
    | .operator o :: rest => joined text most idle 8 a o rest
    | rest => pure (a, rest)

def joined (text : Raw) :
    Nat → Bool → Nat → Int64 → Operator → List Token → Run (Int64 × List Token)
  | 0, _, _, _, _, _ => fault text "expecting primary"
  | most + 1, idle, rank, a, o, tokens => do
    let (b, rest) ← primary text most idle tokens
    let (b, rest) ←
      match rest with
      | .operator next :: behind =>
        if next.rank < o.rank then joined text most idle o.rank b next behind
        else pure (b, rest)
      | rest => pure (b, rest)
    let a ← if idle then pure b else calculate text o a b
    match rest with
    | .operator next :: behind =>
      if next.rank < rank then joined text most idle rank a next behind
      else pure (a, rest)
    | rest => pure (a, rest)

def primary (text : Raw) : Nat → Bool → List Token → Run (Int64 × List Token)
  | 0, _, _ => fault text "expecting primary"
  | most + 1, idle, tokens =>
    match tokens with
    | .open_ :: rest => do
      let (value, rest) ← assignment text most idle rest
      match rest with
      | .close :: rest => pure (value, rest)
      | _ => fault text "expecting ')'"
    | .number value :: rest => pure (value, rest)
    | .name name :: rest => do pure (← if idle then pure 0 else valueOf name, rest)
    | .operator .add :: rest => primary text most idle rest
    | .operator .subtract :: rest => do
      let (value, rest) ← primary text most idle rest
      pure (-value, rest)
    | .not_ :: rest => do
      let (value, rest) ← primary text most idle rest
      pure (ofBool (value = 0), rest)
    | .complement :: rest => do
      let (value, rest) ← primary text most idle rest
      pure (~~~value, rest)
    | _ => fault text "expecting primary"

end

def evaluate (text : Raw) : Run Int64 := do
  let read := tokens text.length text.toList
  let (value, rest) ← assignment text (8 * read.length + 8) false read
  match rest with
  | [] => pure value
  | _ => fault text "expecting EOF"

end Arithmetic
end TaskRunner.Host.Shell
