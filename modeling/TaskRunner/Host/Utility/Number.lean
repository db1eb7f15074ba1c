import TaskRunner.Host.Raw

/-! Whole numbers in arguments. White space and a sign may stand in front; a numeral of no fixed base
is hexadecimal after `0x`, octal after a zero and decimal otherwise. -/

namespace TaskRunner.Host.Utility

def isBlank (c : Char) : Bool := c = ' ' || ('\t' ≤ c && c ≤ '\r')

def digitValue? (c : Char) : Option Nat :=
  if c.isDigit then some (c.toNat - '0'.toNat)
  else if 'a' ≤ c && c ≤ 'z' then some (c.toNat - 'a'.toNat + 10)
  else if 'A' ≤ c && c ≤ 'Z' then some (c.toNat - 'A'.toNat + 10)
  else none

def isDigitOf (base : Nat) (c : Char) : Bool := (digitValue? c).any (· < base)

def valueOf (base : Nat) (digits : List Char) : Nat :=
  digits.foldl (fun value c => value * base + (digitValue? c).getD 0) 0

structure Numeral where
  negative : Bool
  magnitude : Nat
  rest : List Char
  deriving Repr

namespace Numeral

def value (n : Numeral) : Int := if n.negative then -n.magnitude else n.magnitude

def sign : List Char → Bool × List Char
  | '-' :: cs => (true, cs)
  | '+' :: cs => (false, cs)
  | cs => (false, cs)

def baseOf (cs : List Char) : Nat × List Char :=
  match cs with
  | '0' :: x :: d :: rest =>
    if (x = 'x' || x = 'X') && isDigitOf 16 d then (16, d :: rest) else (8, cs)
  | '0' :: _ => (8, cs)
  | _ => (10, cs)

/-- Reads a number; there is none if no digit follows white space and sign. -/
def read? (base : Option Nat) (text : List Char) : Option Numeral :=
  let (negative, cs) := sign (text.dropWhile isBlank)
  let (base, cs) :=
    match base with
    | some base => (base, cs)
    | none => baseOf cs
  let digits := cs.takeWhile (isDigitOf base)
  if digits.isEmpty then none
  else some ⟨negative, valueOf base digits, cs.drop digits.length⟩

def greatest : Int := 9223372036854775807
def least : Int := -9223372036854775808

def signedWord (n : Numeral) : Int × Bool :=
  if n.value < least then (least, false)
  else if greatest < n.value then (greatest, false)
  else (n.value, true)

def unsignedWord (n : Numeral) : Nat × Bool :=
  if UInt64.size ≤ n.magnitude then (UInt64.size - 1, false)
  else ((n.value % UInt64.size).toNat, true)

end Numeral

inductive CountFault where
  | invalid
  | overflow
  deriving DecidableEq, Repr

/-- The factor that a unit stands for: a power of 1024, or of 1000 if `B` follows. -/
def unitOf (cs : List Char) : Option Nat :=
  match cs with
  | [] => some 1
  | ['b'] => some 512
  | c :: rest =>
    let c := if c = 'k' || c = 'm' then c.toUpper else c
    let power := ("KMGTPEZYRQ".toList.idxOf c) + 1
    if 10 < power then none
    else if rest = [] || rest = ['i', 'B'] then some (Nat.pow 1024 power)
    else if rest = ['B'] then some (Nat.pow 1000 power)
    else none

def readCount (text : List Char) : Except CountFault Nat :=
  match Numeral.read? (some 10) text with
  | none =>
    -- a unit alone counts once
    match unitOf text with
    | some unit => if text.isEmpty then .error .invalid else .ok unit
    | none => .error .invalid
  | some n =>
    if n.negative then .error .invalid
    else
      match unitOf n.rest with
      | none => .error .invalid
      | some unit =>
        if UInt64.size ≤ n.magnitude * unit then .error .overflow else .ok (n.magnitude * unit)

end TaskRunner.Host.Utility
