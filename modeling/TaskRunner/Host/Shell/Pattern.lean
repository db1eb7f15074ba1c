import TaskRunner.Host.Raw

/-! Patterns of the shell, for file names, choices and the trimming of values. A backslash takes the
meaning from the character behind it. Brackets that are not closed stand for themselves. -/

namespace TaskRunner.Host.Shell

inductive Glyph where
  | char (c : Char)
  | guarded (c : Char)
  | mark
  | gap
  deriving DecidableEq, Repr

namespace Glyph

def text : List Glyph → List Char
  | [] => []
  | .char c :: rest | .guarded c :: rest => c :: text rest
  | _ :: rest => text rest

/-- The pattern that a word is. A backslash that stands as it is guards what follows it, also if
that is guarded already. -/
def patternFrom (inQuotes free : Bool) : List Glyph → List Char
  | [] => []
  | .mark :: rest => patternFrom (!inQuotes) free rest
  | .gap :: rest => patternFrom inQuotes free rest
  | .char '\\' :: rest => '\\' :: patternFrom inQuotes (!free) rest
  | .char c :: rest => c :: patternFrom inQuotes true rest
  | .guarded c :: rest =>
    (if free then ['\\'] else if inQuotes then ['\\', '\\'] else []) ++
      c :: patternFrom inQuotes true rest

def pattern (word : List Glyph) : List Char := patternFrom false true word

end Glyph

namespace Pattern

def rank (c : Char) : Int := if c.toNat < 128 then c.toNat else (c.toNat : Int) - 256

def classes : List (String × (Char → Bool)) :=
  [(":alnum:]", Char.isAlphanum), (":cntrl:]", fun c => c.toNat < 32 || c.toNat = 127),
    (":lower:]", Char.isLower),
    (":space:]", fun c => c = ' ' || ('\t' ≤ c && c ≤ '\r')), (":alpha:]", Char.isAlpha),
    (":digit:]", Char.isDigit), (":print:]", fun c => ' ' ≤ c && c < '\x7f'),
    (":upper:]", Char.isUpper), (":blank:]", fun c => c = ' ' || c = '\t'),
    (":graph:]", fun c => '!' ≤ c && c < '\x7f'),
    (":punct:]", fun c => '!' ≤ c && c < '\x7f' && !c.isAlphanum),
    (":xdigit:]", fun c => c.isDigit || ('a' ≤ c && c ≤ 'f') || ('A' ≤ c && c ≤ 'F'))]

def class? (cs : List Char) : Option ((Char → Bool) × List Char) :=
  (classes.find? fun entry => entry.1.toList.isPrefixOf cs).map fun entry =>
    (entry.2, cs.drop entry.1.length)

/-- Whether a character is among those in brackets, and what follows the closing bracket. There is
no answer if no bracket closes. -/
def members (chr : Char) : Nat → Bool → Bool → List Char → Option (Bool × List Char)
  | 0, _, _, _ | _, _, _, [] => none
  | most + 1, first, found, c :: cs =>
    if c = ']' && !first then some (found, cs)
    else
      match if c = '[' then class? cs else none with
      | some (holds, rest) => members chr most false (found || holds chr) rest
      | none =>
        let (low, cs) :=
          match c, cs with
          | '\\', d :: cs => (d, cs)
          | _, _ => (c, cs)
        if c = '\\' && cs.isEmpty then none
        else
          match cs with
          | '-' :: high :: rest =>
            if high = ']' then members chr most false (found || chr = low) cs
            else
              let (high, rest) :=
                match high, rest with
                | '\\', h :: rest => (h, rest)
                | _, _ => (high, rest)
              members chr most false (found || (rank low ≤ rank chr && rank chr ≤ rank high)) rest
          | _ => members chr most false (found || chr = low) cs

/-- Whether a text matches a pattern; `most` bounds the steps and is the length of both. -/
def matchesIn : Nat → List Char → List Char → Bool
  | 0, _, _ => false
  | _ + 1, [], text => text.isEmpty
  | most + 1, '*' :: pattern, text =>
    matchesIn most pattern text ||
      (match text with
      | [] => false
      | _ :: text => matchesIn most ('*' :: pattern) text)
  | most + 1, '?' :: pattern, _ :: text => matchesIn most pattern text
  | most + 1, '[' :: pattern, chr :: text =>
    let (inverted, inside) :=
      match pattern with
      | '!' :: inside => (true, inside)
      | inside => (false, inside)
    match members chr (inside.length + 1) true false inside with
    | some (found, rest) => found != inverted && matchesIn most rest text
    | none => chr = '[' && matchesIn most pattern text
  | most + 1, '\\' :: c :: pattern, chr :: text => chr = c && matchesIn most pattern text
  | most + 1, c :: pattern, chr :: text => chr = c && matchesIn most pattern text
  | _, _, [] => false

def matchesText (pattern text : List Char) : Bool :=
  matchesIn (pattern.length + text.length + 1) pattern text

def upToGap (word : List Glyph) : List Char := Glyph.text (word.takeWhile (· ≠ .gap))

/-- Takes the shortest or longest part that a pattern matches off the front of a word. The shortest
one is looked for in front of the first gap. -/
def trimFront (longest : Bool) (pattern : List Char) (word : List Glyph) : List Glyph :=
  let most := if longest then word.length else (upToGap word).length
  let matching := (List.range (most + 1)).filter fun n =>
    matchesText pattern (upToGap (word.take n))
  match if longest then matching.getLast? else matching.head? with
  | some n => word.drop n
  | none => word

/-- Takes the shortest or longest part that a pattern matches off the end of a word. The longest one
is looked for in front of the first gap. -/
def trimEnd (longest : Bool) (pattern : List Char) (word : List Glyph) : List Glyph :=
  let most := if longest then (upToGap word).length else word.length
  let matching := (List.range (most + 1)).filter fun n =>
    matchesText pattern (upToGap (word.drop n))
  match if longest then matching.head? else matching.getLast? with
  | some n => word.take n
  | none => word

end Pattern
end TaskRunner.Host.Shell
