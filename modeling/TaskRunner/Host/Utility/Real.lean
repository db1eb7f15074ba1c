import TaskRunner.Host.Utility.Number

/-! Numbers with a point. A number is a whole number times a power of two; a text is rounded to the
nearest number that a machine format can hold, and of two that are equally near to the even one.
The digits that are shown are exact, and rounded by the same rule. -/

namespace TaskRunner.Host.Utility

inductive Real where
  | finite (negative : Bool) (mantissa : Nat) (exponent : Int)
  | infinite (negative : Bool)
  | notANumber (negative : Bool)
  deriving Repr

structure RealFormat where
  bits : Nat
  leading : Nat
  leastExponent : Int
  greatestExponent : Int

namespace RealFormat

def double : RealFormat := ⟨53, 1, -1074, 1024⟩
def extended : RealFormat := ⟨64, 4, -16445, 16384⟩

end RealFormat

def roundedQuotient (numerator denominator : Nat) : Nat :=
  let quotient := numerator / denominator
  let rest := 2 * (numerator % denominator)
  if rest < denominator || (rest = denominator && quotient % 2 = 0) then quotient else quotient + 1

def scaled (base : Nat) (power : Int) (numerator denominator : Nat) : Nat × Nat :=
  match power with
  | .ofNat n => (numerator * Nat.pow base n, denominator)
  | .negSucc n => (numerator, denominator * Nat.pow base (n + 1))

namespace Real

def ofFraction (format : RealFormat) (negative : Bool) (numerator denominator : Nat) :
    Real × Bool :=
  if numerator = 0 then (finite negative 0 0, true)
  else
    let guess : Int := (numerator.log2 : Int) - denominator.log2 - format.bits
    let mantissaAt (exponent : Int) : Nat :=
      let (n, d) := scaled 2 (-exponent) numerator denominator
      n / d
    let limit := Nat.pow 2 format.bits
    let exponent :=
      if mantissaAt guess < limit then guess
      else if mantissaAt (guess + 1) < limit then guess + 1
      else guess + 2
    let exponent := max exponent format.leastExponent
    let (n, d) := scaled 2 (-exponent) numerator denominator
    let mantissa := roundedQuotient n d
    let width : Int := mantissa.log2 + 1
    if format.greatestExponent < exponent + width then (infinite negative, false)
    else
      let tiny := exponent = format.leastExponent && mantissa < limit / 2
      (finite negative mantissa exponent, !tiny || n % d = 0)

structure Reading where
  value : Real
  inRange : Bool
  rest : List Char

/-- An exponent behind its letter; there is none if no digit follows. -/
def readExponent (letter : Char) (cs : List Char) : Int × List Char :=
  match cs with
  | c :: rest =>
    if c.toLower = letter then
      let (negative, digits) := Numeral.sign rest
      let taken := digits.takeWhile Char.isDigit
      if taken.isEmpty then (0, cs)
      else
        let size : Int := min (valueOf 10 taken) 100000
        (if negative then -size else size, digits.drop taken.length)
    else (0, cs)
  | [] => (0, [])

def readDigits (format : RealFormat) (negative : Bool) (base : Nat) (letter : Char) (step : Nat)
    (cs : List Char) : Option Reading :=
  let whole := cs.takeWhile (isDigitOf base)
  let rest := cs.drop whole.length
  let (part, rest) :=
    match rest with
    | '.' :: more =>
      let part := more.takeWhile (isDigitOf base)
      if whole.isEmpty && part.isEmpty then ([], rest) else (part, more.drop part.length)
    | _ => ([], rest)
  if whole.isEmpty && part.isEmpty then none
  else
    let (exponent, rest) := readExponent letter rest
    let digits := valueOf base (whole ++ part)
    let power : Int := exponent - step * part.length
    let size : Int := if digits = 0 then 0 else power + step * (whole.length + part.length)
    let radix := if base = 10 then 10 else 2
    let (value, inRange) :=
      if 20000 < size then (infinite negative, false)
      else if size < -20000 then (finite negative 0 0, false)
      else
        let (n, d) := scaled radix power digits 1
        ofFraction format negative n d
    some ⟨value, inRange, rest⟩

def startsWithWord (word : String) (cs : List Char) : Bool :=
  cs.take word.length |>.map Char.toLower |> (· == word.toList)

/-- Reads a number; there is none if the text does not start with one. -/
def read? (format : RealFormat) (text : List Char) : Option Reading :=
  let (negative, cs) := Numeral.sign (text.dropWhile isBlank)
  if startsWithWord "infinity" cs then some ⟨infinite negative, true, cs.drop 8⟩
  else if startsWithWord "inf" cs then some ⟨infinite negative, true, cs.drop 3⟩
  else if startsWithWord "nan" cs then
    let rest := cs.drop 3
    let inside := (rest.drop 1).takeWhile fun c => c.isAlphanum || c = '_'
    let closed := rest.head? = some '(' && (rest.drop (1 + inside.length)).head? = some ')'
    some ⟨notANumber negative, true, if closed then rest.drop (2 + inside.length) else rest⟩
  else
    match cs with
    | '0' :: x :: digits =>
      if x = 'x' || x = 'X' then
        match readDigits format negative 16 'p' 4 digits with
        | some reading => some reading
        | none => some ⟨finite negative 0 0, true, x :: digits⟩
      else readDigits format negative 10 'e' 1 cs
    | _ => readDigits format negative 10 'e' 1 cs

structure Style where
  precision : Option Nat := none
  full : Bool := false

def fraction (mantissa : Nat) (exponent : Int) : Nat × Nat := scaled 2 exponent mantissa 1

/-- Digits with a point before the last `places` of them. -/
def withPoint (style : Style) (digits : List Char) (places : Nat) : List Char :=
  let digits := List.replicate (places + 1 - digits.length) '0' ++ digits
  let whole := digits.take (digits.length - places)
  if places = 0 then whole ++ (if style.full then ['.'] else [])
  else whole ++ '.' :: digits.drop (digits.length - places)

def digitsOf (n : Nat) : List Char := Nat.toDigits 10 n

def fixed (style : Style) (places : Nat) (n d : Nat) : List Char :=
  withPoint style (digitsOf (roundedQuotient (n * Nat.pow 10 places) d)) places

def magnitude (n d : Nat) : Int :=
  let guess : Int := ((n.log2 : Int) - d.log2) * 30103 / 100000
  let reaches (power : Int) : Bool :=
    let (n, d) := scaled 10 (-power) n d
    decide (d ≤ n)
  if reaches (guess + 2) then guess + 2
  else if reaches (guess + 1) then guess + 1
  else if reaches guess then guess
  else guess - 1

/-- The digits of a fraction, one before the point and `places` behind it, and the power of ten. -/
def significant (places : Nat) (n d : Nat) : Nat × Int :=
  if n = 0 then (0, 0)
  else
    let power := magnitude n d
    let (n, d) := scaled 10 (places - power) n d
    let digits := roundedQuotient n d
    if Nat.pow 10 (places + 1) ≤ digits then (digits / 10, power + 1) else (digits, power)

def exponentText (letter : Char) (least : Nat) (power : Int) : List Char :=
  let digits := digitsOf power.natAbs
  letter :: (if power < 0 then '-' else '+') ::
    (List.replicate (least - digits.length) '0' ++ digits)

def scientific (style : Style) (places : Nat) (n d : Nat) : List Char :=
  let (digits, power) := significant places n d
  withPoint style (digitsOf digits) places ++ exponentText 'e' 2 power

def dropZeros (cs : List Char) : List Char :=
  if cs.contains '.' then
    let cs := (cs.reverse.dropWhile (· = '0'))
    (if cs.head? = some '.' then cs.drop 1 else cs).reverse
  else cs

def general (style : Style) (precision : Nat) (n d : Nat) : List Char :=
  let places := precision - 1
  let (digits, power) := significant places n d
  let trim (cs : List Char) : List Char := if style.full then cs else dropZeros cs
  if power < -4 || (precision : Int) ≤ power then
    trim (withPoint style (digitsOf digits) places) ++ exponentText 'e' 2 power
  else trim (fixed style (places - power).toNat n d)

def hexadecimal (format : RealFormat) (style : Style) (mantissa : Nat) (exponent : Int) :
    List Char :=
  let nibbles := (format.bits - format.leading) / 4
  let width := mantissa.log2 + 1
  let shift := format.bits - width
  let low := exponent - shift < format.leastExponent
  let shift := if low then (exponent - format.leastExponent).toNat else shift
  let mantissa := mantissa * Nat.pow 2 shift
  let power : Int := if mantissa = 0 then 0 else exponent - shift + 4 * nibbles
  let places := style.precision.getD nibbles
  let kept := min places nibbles
  let digits := roundedQuotient mantissa (Nat.pow 16 (nibbles - kept))
  let shown := Nat.toDigits 16 digits ++ List.replicate (places - kept) '0'
  let shown := withPoint style shown places
  let shown := if style.precision.isNone && !style.full then dropZeros shown else shown
  '0' :: 'x' :: shown ++ exponentText 'p' 1 power

def render (format : RealFormat) (style : Style) (letter : Char) (value : Real) : List Char :=
  let shown :=
    match value with
    | .infinite _ => "inf".toList
    | .notANumber _ => "nan".toList
    | .finite _ mantissa exponent =>
      let (n, d) := fraction mantissa exponent
      let precision := style.precision.getD 6
      match letter.toLower with
      | 'f' => fixed style precision n d
      | 'e' => scientific style precision n d
      | 'a' => hexadecimal format style mantissa exponent
      | _ => general style (max precision 1) n d
  if letter.isUpper then shown.map Char.toUpper else shown

def isNegative : Real → Bool
  | .finite negative _ _ | .infinite negative | .notANumber negative => negative

def isFinite : Real → Bool
  | .finite _ _ _ => true
  | _ => false

end Real
end TaskRunner.Host.Utility
