import TaskRunner.Host.Utility.Number

/-! Backslash escapes in the texts that `echo` and `printf` write. An escape stands for one byte,
given by a letter or by its digits; `\c` ends all output. -/

namespace TaskRunner.Host.Utility

inductive Escape where
  | text (value : Raw) (length : Nat)
  | stop
  | fault (message : String)
  deriving Repr

namespace Escape

def byte (value length : Nat) : Escape := .text (Char.ofNat (value % 256)).toString length

def literal : Escape := .text "\\" 0

/-- At most so many octal digits, of which the first `skipped` characters are none. -/
def octal (skipped most : Nat) (cs : List Char) : Escape :=
  let digits := ((cs.drop skipped).take most).takeWhile (isDigitOf 8)
  byte (valueOf 8 digits) (skipped + digits.length)

def letter? : Char → Option Nat
  | '\\' => some 92
  | 'a' => some 7
  | 'b' => some 8
  | 'f' => some 12
  | 'n' => some 10
  | 'r' => some 13
  | 't' => some 9
  | 'v' => some 11
  | _ => none

def hexDigits (most : Nat) (cs : List Char) : List Char := (cs.take most).takeWhile (isDigitOf 16)

/-- The escapes of `echo -e`. -/
def echo : List Char → Escape
  | [] => literal
  | c :: cs =>
    match letter? c with
    | some value => byte value 1
    | none =>
      if c = 'c' then stop
      else if c = 'e' then byte 27 1
      else if c = 'x' && cs.head?.any (isDigitOf 16) then
        let digits := hexDigits 2 cs
        byte (valueOf 16 digits) (1 + digits.length)
      else if c = '0' then octal 1 3 (c :: cs)
      else if isDigitOf 8 c then octal 0 3 (c :: cs)
      else literal

/-- The escapes in a format of the shell's own `printf`. -/
def shellFormat : List Char → Escape
  | [] => literal
  | c :: cs =>
    match letter? c with
    | some value => byte value 1
    | none =>
      if c = 'e' then byte 27 1
      else if isDigitOf 8 c then octal 0 3 (c :: cs)
      else literal

/-- The escapes in what the shell's own `echo` writes and its `printf` writes for `%b`. -/
def shellArgument : List Char → Escape
  | 'c' :: _ => stop
  | '0' :: cs => octal 1 3 ('0' :: cs)
  | cs => shellFormat cs

def digitMissing : Escape := .fault "missing hexadecimal number in escape"

/-- A character by its number, of so many digits; it is written as the escape that it is, in one
spelling, where it is not ASCII. -/
def character (letter : Char) (count : Nat) (cs : List Char) : Escape :=
  let digits := hexDigits count cs
  let value := valueOf 16 digits
  let padded (width : Nat) (upper : Bool) : String :=
    let shown := Nat.toDigits 16 value
    String.ofList (List.replicate (width - shown.length) '0' ++
      if upper then shown.map Char.toUpper else shown)
  if digits.length < count then digitMissing
  else if 0xd800 ≤ value && value ≤ 0xdfff then
    .fault s!"invalid universal character name \\{letter}{padded count false}"
  else if value < 0x80 then byte value (1 + count)
  else if value < 0x10000 then .text ("\\u" ++ padded 4 true) (1 + count)
  else .text ("\\U" ++ padded 8 true) (1 + count)

/-- The escapes of the program `printf`. In an argument a zero may stand before the octal digits. -/
def printf (argument : Bool) : List Char → Escape
  | [] => literal
  | c :: cs =>
    match letter? c with
    | some value => byte value 1
    | none =>
      match c with
      | '"' => byte 34 1
      | 'c' => stop
      | 'e' => byte 27 1
      | 'x' =>
        let digits := hexDigits 2 cs
        if digits.isEmpty then digitMissing else byte (valueOf 16 digits) (1 + digits.length)
      | 'u' => character 'u' 4 cs
      | 'U' => character 'U' 8 cs
      | c =>
        if isDigitOf 8 c then octal (if argument && c = '0' then 1 else 0) 3 (c :: cs)
        else .text (String.ofList ['\\', c]) 1

end Escape

inductive Ending where
  | complete
  | stopped
  | faulty (message : String)
  deriving DecidableEq, Repr

def unescape (escape : List Char → Escape) (text : List Char) : List Char × Ending :=
  match text with
  | [] => ([], .complete)
  | '\\' :: rest =>
    match escape rest with
    | .stop => ([], .stopped)
    | .fault message => ([], .faulty message)
    | .text value length =>
      let (shown, ending) := unescape escape (rest.drop length)
      (value.toList ++ shown, ending)
  | c :: rest =>
    let (shown, ending) := unescape escape rest
    (c :: shown, ending)
termination_by text.length
decreasing_by
  all_goals simp only [List.length_cons, List.length_drop]; omega

end TaskRunner.Host.Utility
