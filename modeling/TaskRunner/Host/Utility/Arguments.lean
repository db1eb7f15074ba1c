import TaskRunner.Host.Utility.Message

/-! The arguments of a utility. Letters behind one dash are options of their own, up to one that
takes what is left for its value; with nothing left it takes the next argument. A word behind two
dashes stands for an option too, and may be cut short as long as it is told from others. Two dashes
alone end the options, and a dash alone is an operand. Operands may stand between options, unless
the environment asks for the strict order. -/

namespace TaskRunner.Host.Utility

inductive OptionValue where
  | never
  | always
  | maybe
  deriving DecidableEq, Repr

structure OptionSet where
  letters : String := ""
  valued : String := ""
  words : List (String × OptionValue × String) := []

/-- Something that arguments ask for. Nothing follows a fault. -/
inductive Request where
  | option (name : String) (value : Option Raw)
  | fault (text : String)
  deriving DecidableEq, Repr

structure Arguments where
  requests : List Request := []
  operands : List Raw := []
  deriving Repr

namespace Arguments

def add (a : Arguments) (requests : List Request) : Arguments :=
  { a with requests := requests ++ a.requests }

def ofFault (text : String) : Arguments := { requests := [.fault text] }

/-- The options behind one dash. The last part of the answer is the letter whose value is the next
argument. -/
def cluster (set : OptionSet) : List Char → List Request × Option Char
  | [] => ([], none)
  | c :: cs =>
    if set.valued.toList.contains c then
      if cs = [] then ([], some c) else ([.option c.toString (some (String.ofList cs))], none)
    else if set.letters.toList.contains c then
      let (requests, wanting) := cluster set cs
      (.option c.toString none :: requests, wanting)
    else ([.fault s!"invalid option -- '{c}'"], none)

/-- The words that an abbreviation can stand for. One that is spelled out stands for itself. -/
def wordsFor (set : OptionSet) (short : String) : List (String × OptionValue × String) :=
  match set.words.find? (·.1 = short) with
  | some word => [word]
  | none => set.words.filter (·.1.startsWith short)

/-- The option behind two dashes. The last part of the answer is the word whose value is the next
argument. -/
def word (set : OptionSet) (argument : Raw) : Request ⊕ (String × String) :=
  let body := argument.toList.drop 2
  let short := String.ofList (body.takeWhile (· ≠ '='))
  let value := if body.contains '=' then some (String.ofList ((body.dropWhile (· ≠ '=')).drop 1))
    else none
  match wordsFor set short with
  | [] => .inl (.fault s!"unrecognized option '--{String.ofList body}'")
  | (full, kind, option) :: others =>
    if others.any (·.2 ≠ (kind, option)) then
      let possible := ((full, kind, option) :: others).map fun w => s!" '--{w.1}'"
      .inl (.fault
        s!"option '--{String.ofList body}' is ambiguous; possibilities:{String.join possible}")
    else
      match kind, value with
      | .never, some _ => .inl (.fault s!"option '--{full}' doesn't allow an argument")
      | .always, none => .inr (full, option)
      | _, _ => .inl (.option option value)

def isFault : Request → Bool
  | .fault _ => true
  | .option _ _ => false

def read (set : OptionSet) (strict : Bool) : List Raw → Arguments
  | [] => {}
  | argument :: rest =>
    match argument.toList with
    | ['-', '-'] => { operands := rest }
    | '-' :: '-' :: _ =>
      match word set argument with
      | .inl request =>
        if isFault request then { requests := [request] } else (read set strict rest).add [request]
      | .inr (full, option) =>
        match rest with
        | value :: rest => (read set strict rest).add [.option option (some value)]
        | [] => ofFault s!"option '--{full}' requires an argument"
    | '-' :: c :: cs =>
      match cluster set (c :: cs) with
      | (requests, none) =>
        if requests.any isFault then { requests } else (read set strict rest).add requests
      | (requests, some wanting) =>
        match rest with
        | value :: rest => (read set strict rest).add
            (requests ++ [.option wanting.toString (some value)])
        | [] => (ofFault s!"option requires an argument -- '{wanting}'").add requests
    | _ =>
      if strict then { operands := argument :: rest }
      else
        let a := read set strict rest
        { a with operands := argument :: a.operands }

def has (a : Arguments) (option : String) : Bool :=
  a.requests.any fun
    | .option name _ => name = option
    | .fault _ => false

def value? (a : Arguments) (option : String) : Option Raw :=
  a.requests.reverse.findSome? fun
    | .option name value => if name = option then value else none
    | .fault _ => none

def fault? (a : Arguments) : Option String :=
  a.requests.findSome? fun
    | .fault text => some text
    | .option _ _ => none

end Arguments

def argumentsOf (set : OptionSet) (arguments : List Raw) : Act Arguments := do
  let strict := ((← get).process.environment.lookup "POSIXLY_CORRECT").isSome
  pure (.read set strict arguments)

def withArguments (set : OptionSet) (run : Raw → Arguments → Act Nat) : Program :=
  closing fun name arguments => do
    let a ← argumentsOf set arguments
    match a.fault? with
    | some text => misused name text
    | none => run name a

end TaskRunner.Host.Utility
