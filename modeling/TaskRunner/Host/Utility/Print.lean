import TaskRunner.Host.Utility.Arguments
import TaskRunner.Host.Utility.Conversion
import TaskRunner.Host.Utility.Escape

/-! `echo` and `printf`. A format is gone through again as long as it takes arguments and some are
left. What is written and what is complained about are kept in their order. The program and the
shell's own command read the same formats with small differences, which a style tells apart. -/

namespace TaskRunner.Host.Utility

def isEchoOption (argument : Raw) : Bool :=
  match argument.toList with
  | '-' :: c :: cs => (c :: cs).all ("neE".toList.contains ·)
  | _ => false

def echo : Program := closing fun _ arguments => do
  let strict := ((← get).process.environment.lookup "POSIXLY_CORRECT").isSome
  let options :=
    if strict then (if arguments.head? = some "-n" then arguments.takeWhile isEchoOption else [])
    else arguments.takeWhile isEchoOption
  let letters := options.flatMap (·.toList.drop 1)
  let escaped := strict || (letters.filter (· ≠ 'n')).getLast? = some 'e'
  let line := " ".intercalate (arguments.drop options.length)
  let (shown, ending) :=
    if escaped then unescape Escape.echo line.toList else (line.toList, .complete)
  let newline := ending = .complete && !letters.contains 'n'
  Act.say (String.ofList (if newline then shown ++ ['\n'] else shown))
  pure 0

/-- What the two forms of `printf` have of their own. -/
structure PrintStyle where
  rich : Bool
  format : RealFormat
  formatEscape : List Char → Escape
  argumentEscape : List Char → Escape
  notNumeric : Raw → String
  trailing : Raw → String
  outOfRange : Raw → String

inductive Printed where
  | text (shown : List Char)
  | complaint (message : String)
  deriving Repr

/-- A format on its way. `printed` holds what came of it, the last part first. -/
structure Printing where
  arguments : List Raw
  taken : Bool := false
  printed : List Printed := []
  code : Nat := 0

abbrev Print := EStateM Nat Printing

namespace Print

def put (shown : List Char) : Print Unit :=
  modify fun p => { p with printed := .text shown :: p.printed }

def complain (message : String) : Print Unit :=
  modify fun p => { p with printed := .complaint message :: p.printed }

def fail (message : String) : Print Unit := do
  complain message
  modify fun p => { p with code := 1 }

def refuse {α : Type} (code : Nat) (message : String) : Print α := do
  complain message
  throw code

def argument? : Print (Option Raw) := do
  let p ← get
  match p.arguments with
  | [] => pure none
  | argument :: arguments =>
    set { p with arguments, taken := true }
    pure (some argument)

def characterCode? (style : PrintStyle) (text : Raw) : Print (Option Nat) := do
  match text.toList with
  | [c] => pure (if !style.rich && (c = '\'' || c = '"') then some 0 else none)
  | q :: c :: rest =>
    if q = '\'' || q = '"' then
      if style.rich && !rest.isEmpty then
        complain (s!"warning: {String.ofList rest}: character(s) following character constant " ++
          "have been ignored")
      pure (some c.toNat)
    else pure none
  | [] => pure none

def verify (style : PrintStyle) (text : Raw) (whole : Bool) (rest : List Char) (inRange : Bool) :
    Print Unit :=
  if style.rich && !inRange then fail (style.outOfRange text)
  else if !rest.isEmpty then fail (if whole then style.trailing text else style.notNumeric text)
  else if !inRange then fail (style.outOfRange text)
  else pure ()

def readArgument {α : Type} [Inhabited α] (style : PrintStyle) (text : Raw) (ofCode : Nat → α)
    (read : List Char → Option (α × Bool × List Char)) : Print α := do
  match ← characterCode? style text with
  | some code => pure (ofCode code)
  | none =>
    match read text.toList with
    | some (value, inRange, rest) =>
      verify style text true rest inRange
      pure value
    | none =>
      verify style text false text.toList true
      pure (ofCode 0)

def signedArgument (style : PrintStyle) (text : Raw) : Print Int :=
  readArgument style text Int.ofNat fun cs =>
    (Numeral.read? none cs).map fun n => (n.signedWord.1, n.signedWord.2, n.rest)

def unsignedArgument (style : PrintStyle) (text : Raw) : Print Nat :=
  readArgument style text id fun cs =>
    (Numeral.read? none cs).map fun n => (n.unsignedWord.1, n.unsignedWord.2, n.rest)

instance : Inhabited Real := ⟨.finite false 0 0⟩

def realArgument (style : PrintStyle) (text : Raw) : Print Real :=
  readArgument style text (fun code => .finite false code 0) fun cs =>
    (Real.read? style.format cs).map fun r => (r.value, r.inRange, r.rest)

def putEscaped (style : PrintStyle) (c : Conversion) (text : Raw) : Print Unit := do
  let (shown, ending) := unescape style.argumentEscape text.toList
  put (c.text shown)
  match ending with
  | .complete => pure ()
  | .stopped => do
    let p ← get
    throw (if style.rich then 0 else p.code)
  | .faulty message => refuse 1 message

def admits (flags : List Char) (precise : Bool) (letter : Char) : Bool :=
  "aAcdeEfFgGiosuxX".toList.contains letter &&
    !(flags.any (fun f => f = '\'' || f = 'I') && "aAceEosxX".toList.contains letter) &&
    !(flags.contains '#' && "cdisu".toList.contains letter) &&
    !(flags.contains '0' && "cs".toList.contains letter) &&
    !(precise && letter = 'c')

def convert (style : PrintStyle) (c : Conversion) : Print Unit := do
  let argument ← argument?
  let text := argument.getD ""
  match c.letter with
  | 's' => put (c.text text.toList)
  | 'c' => put ({ c with precision := none }.text (text.toList.take 1 ++
      if text.isEmpty then ['\x00'] else []))
  | 'd' | 'i' =>
    put (c.signed (← if argument.isNone then pure 0 else signedArgument style text))
  | 'o' | 'u' | 'x' | 'X' =>
    put (c.unsigned (← if argument.isNone then pure 0 else unsignedArgument style text))
  | _ =>
    let shown := c.real style.format
      (← if argument.isNone then pure (.finite false 0 0) else realArgument style text)
    -- asked for, digits of another alphabet stand in place of the usual ones; there are none
    put (if c.flags.contains 'I' then shown.filter (!·.isDigit) else shown)

def starArgument (style : PrintStyle) (what : String) : Print Int := do
  match ← argument? with
  | none => pure 0
  | some text =>
    let value ← signedArgument style text
    if style.rich && (2147483647 < value || (what = "field width" && value < -2147483648)) then
      refuse 1 s!"invalid {what}: {cited text}"
    else pure value

def readSize (style : PrintStyle) (what : String) : List Char → Print (Int × List Char)
  | '*' :: cs => do pure (← starArgument style what, cs)
  | cs =>
    let digits := cs.takeWhile Char.isDigit
    pure (valueOf 10 digits, cs.drop digits.length)

/-- Carries out the conversion behind a percent sign; answers what follows it. -/
def conversion (style : PrintStyle) (cs : List Char) : Print (List Char) := do
  let flags := cs.takeWhile ((if style.rich then "-+ #0'I" else "-+ #0").toList.contains ·)
  let (width, rest) ← readSize style "field width" (cs.drop flags.length)
  let (precision, rest) ←
    match rest with
    | '.' :: rest =>
      let (precision, rest) ← readSize style "precision" rest
      pure (some precision, rest)
    | rest => pure (none, rest)
  let rest := if style.rich then rest.dropWhile ("lLhjtz".toList.contains ·) else rest
  let c : Conversion :=
    Conversion.withWidth
      { flags
        precision := precision.bind fun p => if p < 0 then none else some p.toNat
        letter := rest.headD '\x00' } width
  let shown (count : Nat) : String := String.ofList ('%' :: cs.take (cs.length - rest.length + count))
  match rest with
  | [] =>
    if style.rich then refuse 1 s!"{shown 0}: invalid conversion specification"
    else refuse 2 "missing format character"
  | letter :: rest =>
    if !style.rich && letter = 'b' then
      putEscaped style c ((← argument?).getD "")
      pure rest
    else if style.rich && !admits flags precision.isSome letter then
      refuse 1 s!"{shown 1}: invalid conversion specification"
    else if !style.rich && !"aAcdeEfFgGiosuxX".toList.contains letter then
      refuse 2 s!"{shown 1}: invalid directive"
    else
      convert style c
      pure rest

/-- Goes through a format once; `most` bounds the steps and is the length of the format. -/
def formatOnce (style : PrintStyle) : Nat → List Char → Print Unit
  | 0, _ | _, [] => pure ()
  | most + 1, '%' :: '%' :: rest => do
    put ['%']
    formatOnce style most rest
  | most + 1, '%' :: rest => do
    match style.rich, rest with
    | true, 'b' :: rest =>
      match ← argument? with
      | some text => putEscaped style { letter := 's' } text
      | none => pure ()
      formatOnce style most rest
    | true, 'q' :: rest =>
      match ← argument? with
      | some text => put (named text).toList
      | none => pure ()
      formatOnce style most rest
    | _, rest => formatOnce style most (← conversion style rest)
  | most + 1, '\\' :: rest =>
    match style.formatEscape rest with
    | .stop => throw 0
    | .fault message => refuse 1 message
    | .text value length => do
      put value.toList
      formatOnce style most (rest.drop length)
  | most + 1, c :: rest => do
    let plain := (c :: rest).takeWhile fun c => c ≠ '%' && c ≠ '\\'
    put plain
    formatOnce style most (rest.drop (plain.length - 1))

/-- Goes through a format as long as it takes arguments and some are left; `most` bounds the rounds
and is one more than the number of arguments. -/
def rounds (style : PrintStyle) (format : List Char) : Nat → Print Unit
  | 0 => pure ()
  | most + 1 => do
    modify fun p => { p with taken := false }
    formatOnce style format.length format
    let p ← get
    match p.arguments with
    | [] => pure ()
    | argument :: _ =>
      if p.taken then rounds style format most
      else if style.rich then
        complain s!"warning: ignoring excess arguments, starting with {cited argument}"
      else pure ()

end Print

def printed (style : PrintStyle) (format : Raw) (arguments : List Raw) : List Printed × Nat :=
  match Print.rounds style format.toList (arguments.length + 1) { arguments } with
  | .ok _ p => (p.printed.reverse, p.code)
  | .error code p => (p.printed.reverse, code)

def programPrinting : PrintStyle where
  rich := true
  format := .extended
  formatEscape := Escape.printf false
  argumentEscape := Escape.printf true
  notNumeric text := s!"{cited text}: expected a numeric value"
  trailing text := s!"{cited text}: value not completely converted"
  outOfRange text := s!"{cited text}: {Errno.outOfRange.text}"

def shellPrinting : PrintStyle where
  rich := false
  format := .double
  formatEscape := Escape.shellFormat
  argumentEscape := Escape.shellArgument
  notNumeric text := s!"{text}: expected numeric value"
  trailing text := s!"{text}: not completely converted"
  outOfRange text := s!"{text}: {Errno.outOfRange.text}"

def joinTexts : List Printed → List Printed
  | .text a :: rest =>
    match joinTexts rest with
    | .text b :: rest => .text (a ++ b) :: rest
    | rest => .text a :: rest
  | .complaint message :: rest => .complaint message :: joinTexts rest
  | [] => []

def printf : Program := closing fun name arguments =>
  match if arguments.head? = some "--" then arguments.drop 1 else arguments with
  | [] => misused name "missing operand"
  | format :: arguments => do
    let (items, code) := printed programPrinting format arguments
    for item in joinTexts items do
      match item with
      | .text shown => Act.say (String.ofList shown)
      | .complaint message => Act.complain s!"{name}: {message}"
    pure code

end TaskRunner.Host.Utility
