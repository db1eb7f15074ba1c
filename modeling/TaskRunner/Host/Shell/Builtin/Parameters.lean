import TaskRunner.Host.Shell.Builtin.Options

/-! Commands that change variables, parameters and options, and the one that reads options from
parameters letter by letter. -/

namespace TaskRunner.Host.Shell
namespace Builtin

def optionNames : List (String × Option Char) :=
  [("errexit", some 'e'), ("noglob", some 'f'), ("ignoreeof", some 'I'), ("interactive", some 'i'),
    ("monitor", some 'm'), ("noexec", some 'n'), ("stdin", some 's'), ("xtrace", some 'x'),
    ("verbose", some 'v'), ("vi", some 'V'), ("emacs", some 'E'), ("noclobber", some 'C'),
    ("allexport", some 'a'), ("notify", some 'b'), ("nounset", some 'u'),
    ("privileged", some 'p'), ("nolog", none), ("debug", none)]

def switch (name : String) (on : Bool) : Run Unit :=
  Run.change fun s =>
    let others := s.options.filter (· ≠ name)
    { s with options := if on then name :: others else others }

/-- Turns an option on or off by its letter. One way to edit lines excludes the other. -/
def switchLetter (letter : Char) (on : Bool) : Run Unit := do
  match optionNames.find? (·.2 = some letter) with
  | none => Run.fail s!"Illegal option -{letter}"
  | some (name, _) =>
    switch name on
    if on && name = "vi" then switch "emacs" false
    if on && name = "emacs" then switch "vi" false

def switchName (name : Raw) (on : Bool) : Run Unit :=
  if optionNames.any (·.1 = name) then switch name on else Run.fail s!"Illegal option -o {name}"

def padName (width : Nat) (name : String) : String :=
  name ++ String.ofList (List.replicate (width - name.length) ' ')

/-- Lists the options; those in `undecided` count as on. -/
def showOptions (asCommands : Bool) (undecided : List String) : Run Unit := do
  let set := undecided ++ (← Run.shell).options
  if !asCommands then Run.sayLine "Current option settings"
  for (name, _) in optionNames do
    let on := set.contains name
    Run.sayLine
      (if asCommands then "set " ++ (if on then "-o " else "+o ") ++ name
      else padName 16 name ++ (if on then "on" else "off"))

inductive OptionsEnd where
  | operands
  | dash
  | twoDashes
  deriving DecidableEq, Repr

/-- Options at the front of arguments. `start` accepts what only the start of a shell knows; the
answer tells whether that was asked for. -/
structure SwitchRequest where
  on : Bool
  letter : Char
  name : Option Raw := none
  deriving Repr

/-- The requests in one argument; a name comes from the next argument. -/
def switchRequests (on : Bool) : List Char → List Raw → List SwitchRequest × List Raw
  | [], arguments => ([], arguments)
  | 'o' :: cs, arguments =>
    let (rest, behind) := switchRequests on cs (arguments.drop 1)
    (⟨on, 'o', arguments.head?⟩ :: rest, behind)
  | c :: cs, arguments =>
    let (rest, behind) := switchRequests on cs arguments
    (⟨on, c, none⟩ :: rest, behind)

/-- All requests, how they ended, and the operands; `most` bounds their number. -/
def allSwitchRequests : Nat → List Raw → List SwitchRequest × OptionsEnd × List Raw
  | 0, arguments => ([], .operands, arguments)
  | _ + 1, [] => ([], .operands, [])
  | most + 1, argument :: arguments =>
    match argument.toList with
    | ['-'] => ([], .dash, arguments)
    | ['-', '-'] => ([], .twoDashes, arguments)
    | sign :: cs =>
      if sign = '-' || sign = '+' then
        let (first, behind) := switchRequests (sign = '-') cs arguments
        let (rest, ending, operands) := allSwitchRequests most behind
        (first ++ rest, ending, operands)
      else ([], .operands, argument :: arguments)
    | [] => ([], .operands, argument :: arguments)

def SwitchRequest.option? (r : SwitchRequest) : Option String :=
  if r.letter = 'o' then r.name
  else (optionNames.find? (·.2 = some r.letter)).map (·.1)

def carryOut (undecided : List String) (r : SwitchRequest) : Run Unit :=
  if r.letter = 'o' then
    match r.name with
    | some name => switchName name r.on
    | none => showOptions (!r.on) undecided
  else switchLetter r.letter r.on

def settleOptions : Run Unit := do
  if ← Run.hasOption "monitor" then
    Run.warn "can't access tty; job control turned off"
    switch "monitor" false

def setParameters (parameters : List Raw) : Run Unit :=
  Run.change fun s => { s with parameters, optionIndex := 1, optionOffset := none }

def showVariables (word : Raw) (shown : Variable → Bool) : Run Unit := do
  for (name, v) in (← Run.shell).bindings.toList do
    if shown v then
      let front := if word = "" then "" else word ++ " "
      let value := (v.value.map fun value => "=" ++ quoted value).getD ""
      Run.sayLine s!"{front}{name}{value}"

def set (arguments : List Raw) : Run Nat := do
  if arguments.isEmpty then
    showVariables "" (·.value.isSome)
    pure 0
  else
    let (requests, ending, operands) := allSwitchRequests arguments.length arguments
    requests.forM (carryOut [])
    if ending = .dash then
      switch "xtrace" false
      switch "verbose" false
    settleOptions
    if !operands.isEmpty || ending = .twoDashes then setParameters operands
    pure 0

def shift (arguments : List Raw) : Run Nat := do
  let n ←
    match arguments with
    | [] => pure 1
    | text :: _ => Run.count text
  let parameters := (← Run.shell).parameters
  if parameters.length < n then Run.fail "can't shift that many"
  setParameters (parameters.drop n)
  pure 0

def markOne (exported readOnly : Bool) (argument : Raw) : Run Unit := do
  let (name, value) := Run.splitAssignment argument
  match value, (← Run.shell).bindings[name]? with
  | none, some v =>
    Run.change fun s => { s with
      bindings := s.bindings.insert name
        { v with exported := v.exported || exported, readOnly := v.readOnly || readOnly } }
  | value, _ => Run.set name value exported readOnly

/-- `export` and `readonly`. -/
def mark (word : Raw) (arguments : List Raw) : Run Nat := do
  let readOnly := word.startsWith "r"
  let (options, operands) ← options "p" arguments
  if options.isEmpty && !operands.isEmpty then
    operands.forM (markOne (!readOnly) readOnly)
  else showVariables word fun v => if readOnly then v.readOnly else v.exported
  pure 0

def local_ (arguments : List Raw) : Run Nat := do
  if (← Run.shell).frames.isEmpty then Run.fail "not in a function"
  arguments.forM (Run.makeLocal · false)
  pure 0

def unset (arguments : List Raw) : Run Nat := do
  let (options, names) ← options "vf" arguments
  if (options.getLast?.map (·.1)) = some 'f' then
    Run.change fun s =>
      { s with functions := names.foldl (fun functions name => functions.erase name) s.functions }
  else names.forM Run.unset
  pure 0

inductive NextOption where
  | done
  | letter (c : Char) (argument : Raw)
  | unknown (c : Char)
  | missing (c : Char)
  deriving DecidableEq, Repr

def describedLetters : List Char → List (Char × Bool)
  | c :: ':' :: rest => (c, true) :: describedLetters rest
  | c :: rest => (c, false) :: describedLetters rest
  | [] => []

/-- The next option among words, from the word and the offset where the last one ended. Answers too
where the next search begins. -/
def nextOption (description : List Char) (words : List Raw) (index : Nat) (offset : Option Nat) :
    NextOption × Nat × Option Nat :=
  let current : List Char :=
    match offset, words[index - 2]? with
    | some offset, some word => if 2 ≤ index then word.toList.drop offset else []
    | _, _ => []
  let start : Option (List Char × Nat) ⊕ Nat :=
    match current, words[index - 1]? with
    | [], some word =>
      match word.toList with
      | ['-', '-'] => .inr (index + 1)
      | '-' :: c :: cs => .inl (some (c :: cs, index + 1))
      | _ => .inr index
    | [], none => .inr index
    | current, _ => .inl (some (current, index))
  match start with
  | .inr index => (.done, index, none)
  | .inl none => (.done, index, none)
  | .inl (some (cs, index)) =>
    let c := cs.headD '?'
    let rest := cs.drop 1
    let offsetOf (rest : List Char) : Option Nat :=
      (words[index - 2]?).map fun word => word.length - rest.length
    match (describedLetters description).lookup c with
    | none => (.unknown c, index, offsetOf rest)
    | some false => (.letter c "", index, offsetOf rest)
    | some true =>
      if !rest.isEmpty then (.letter c (String.ofList rest), index, none)
      else
        match words[index - 1]? with
        | some word => (.letter c word, index + 1, none)
        | none => (.missing c, index, none)

def getopts (arguments : List Raw) : Run Nat := do
  match arguments with
  | description :: name :: given =>
    let s ← Run.shell
    let words := if given.isEmpty then s.parameters else given
    let (index, offset) :=
      if words.length + 1 < s.optionIndex then (1, none) else (s.optionIndex, s.optionOffset)
    let silent := description.startsWith ":"
    let (next, index, offset) := nextOption description.toList words index offset
    let shown (c : Char) : Raw := c.toString
    let letter ←
      match next with
      | .done => pure '?'
      | .letter c argument => do
        Run.set "OPTARG" (some argument)
        pure c
      | .unknown c => do
        if silent then Run.set "OPTARG" (some (shown c))
        else
          Run.sayError s!"Illegal option -{c}\n"
          Run.unset "OPTARG"
        pure '?'
      | .missing c => do
        if silent then
          Run.set "OPTARG" (some (shown c))
          pure ':'
        else
          Run.sayError s!"No arg for -{c} option\n"
          Run.unset "OPTARG"
          pure '?'
    Run.assign "OPTIND" (some (toString index)) false false false
    Run.set name (some (shown letter))
    Run.change fun s => { s with optionIndex := index, optionOffset := offset }
    pure (if next = .done then 1 else 0)
  | _ => Run.fail "Usage: getopts optstring var [arg...]"

end Builtin
end TaskRunner.Host.Shell
