import TaskRunner.Host.Utility.Number

/-! Permissions as texts: octal digits, or clauses that say for whom what is added, taken away or
set. -/

namespace TaskRunner.Host.Utility
namespace Mode

def everybody : Nat := 0o777

def classBits : Char → Nat
  | 'u' => 0o4700
  | 'g' => 0o2070
  | 'o' => 0o1007
  | _ => 0o7777

def letterBits (isDirectory : Bool) (mode : Nat) : Char → Option Nat
  | 'r' => some 0o444
  | 'w' => some 0o222
  | 'x' => some 0o111
  | 'X' => some (if isDirectory || mode &&& 0o111 ≠ 0 then 0o111 else 0)
  | 's' => some 0o6000
  | 't' => some 0o1000
  | _ => none

def copied (mode : Nat) : Char → Option Nat
  | 'u' => some ((mode / 64 % 8) * 0o111)
  | 'g' => some ((mode / 8 % 8) * 0o111)
  | 'o' => some ((mode % 8) * 0o111)
  | _ => none

def without (a b : Nat) : Nat := a &&& (0o7777 ^^^ b)

/-- Carries out the actions of a clause; `most` bounds their number. -/
def actions (isDirectory : Bool) (who umask : Nat) : Nat → Nat → List Char → Option Nat
  | _, mode, [] => some mode
  | 0, _, _ => none
  | most + 1, mode, operator :: cs =>
    if !"+-=".toList.contains operator then none
    else
      let taken := cs.takeWhile (!"+-=".toList.contains ·)
      let bits :=
        match taken with
        | [c] => (copied mode c).or (letterBits isDirectory mode c)
        | cs => cs.foldl (fun bits c =>
          match bits, letterBits isDirectory mode c with
          | some bits, some more => some (bits ||| more)
          | _, _ => none) (some 0)
      match bits with
      | none => none
      | some bits =>
        let bits := if who = 0 then without bits umask else bits &&& who
        let all := if who = 0 then 0o7777 else who
        let mode :=
          match operator with
          | '+' => mode ||| bits
          | '-' => without mode bits
          | _ => without mode (all &&& 0o777) ||| bits
        actions isDirectory who umask most mode (cs.drop taken.length)

def clause (isDirectory : Bool) (umask mode : Nat) (cs : List Char) : Option Nat :=
  let users := cs.takeWhile ("ugoa".toList.contains ·)
  let rest := cs.drop users.length
  let who := users.foldl (fun bits c => bits ||| classBits c) 0
  if rest = [] then none else actions isDirectory who umask rest.length mode rest

def clauses (isDirectory : Bool) (umask : Nat) : Nat → List (List Char) → Option Nat
  | mode, [] => some mode
  | mode, cs :: rest =>
    match clause isDirectory umask mode cs with
    | some mode => clauses isDirectory umask mode rest
    | none => none

def splitClauses (cs : List Char) : List (List Char) :=
  cs.foldr (fun c parts =>
    match parts with
    | part :: parts => if c = ',' then [] :: part :: parts else (c :: part) :: parts
    | [] => [[c]]) [[]]

def read? (isDirectory : Bool) (umask mode : Nat) (text : Raw) : Option Nat :=
  let cs := text.toList
  if cs.head?.any (isDigitOf 8) then
    if cs.all (isDigitOf 8) && valueOf 8 cs ≤ 0o7777 then some (valueOf 8 cs) else none
  else clauses isDirectory umask mode (splitClauses cs)

end Mode
end TaskRunner.Host.Utility
