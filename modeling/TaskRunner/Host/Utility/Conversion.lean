import TaskRunner.Host.Utility.Real

/-! Conversions of a format. A value is shown with a sign, a mark of its base, zeros in front and
blanks on one side, as far as flags, width and precision ask for them. -/

namespace TaskRunner.Host.Utility

structure Conversion where
  flags : List Char := []
  width : Nat := 0
  precision : Option Nat := none
  letter : Char
  deriving Repr

namespace Conversion

def hasFlag (c : Conversion) (flag : Char) : Bool := c.flags.contains flag

/-- A width that is given by an argument; a negative one puts the blanks behind. -/
def withWidth (c : Conversion) (width : Int) : Conversion :=
  { c with width := width.natAbs, flags := if width < 0 then '-' :: c.flags else c.flags }

def padded (c : Conversion) (shown : List Char) : List Char :=
  let fill := List.replicate (c.width - shown.length) ' '
  if c.hasFlag '-' then shown ++ fill else fill ++ shown

def text (c : Conversion) (shown : List Char) : List Char :=
  c.padded (match c.precision with
    | some most => shown.take most
    | none => shown)

def withMark (c : Conversion) (zeros : Bool) (mark digits : List Char) : List Char :=
  let fill :=
    if zeros && c.hasFlag '0' && !c.hasFlag '-' then
      List.replicate (c.width - mark.length - digits.length) '0'
    else []
  c.padded (mark ++ fill ++ digits)

def signMark (c : Conversion) (negative : Bool) : List Char :=
  if negative then ['-']
  else if c.hasFlag '+' then ['+']
  else if c.hasFlag ' ' then [' ']
  else []

/-- At least as many digits as the precision asks for; a zero of precision zero has none. -/
def digits (c : Conversion) (base magnitude : Nat) : List Char :=
  let shown := if magnitude = 0 && c.precision = some 0 then [] else Nat.toDigits base magnitude
  List.replicate (c.precision.getD 1 - shown.length) '0' ++ shown

def signed (c : Conversion) (value : Int) : List Char :=
  c.withMark c.precision.isNone (c.signMark (value < 0)) (c.digits 10 value.natAbs)

def unsigned (c : Conversion) (value : Nat) : List Char :=
  let base := if c.letter = 'o' then 8 else if c.letter.toLower = 'x' then 16 else 10
  let digits := c.digits base value
  let digits :=
    if c.hasFlag '#' && base = 8 && digits.head? ≠ some '0' then '0' :: digits else digits
  let mark := if c.hasFlag '#' && base = 16 && value ≠ 0 then ['0', c.letter] else []
  c.withMark c.precision.isNone mark
    (if c.letter = 'X' then digits.map Char.toUpper else digits)

def real (c : Conversion) (format : RealFormat) (value : Real) : List Char :=
  let shown := Real.render format ⟨c.precision, c.hasFlag '#'⟩ c.letter value
  let sign := c.signMark value.isNegative
  if c.letter.toLower = 'a' && value.isFinite then
    c.withMark true (sign ++ shown.take 2) (shown.drop 2)
  else c.withMark value.isFinite sign shown

end Conversion
end TaskRunner.Host.Utility
