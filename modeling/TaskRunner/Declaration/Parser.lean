import TaskRunner.Declaration
import TaskRunner.Text.Alphanumeric

/-! Reading one declaration line: a run of letters and digits, a colon, and then words of letters
and digits with spaces around them. Any other character is an offence at its own position, and the
first offence decides. -/

namespace TaskRunner.Declaration
open Text

def closeWord (word : List Char) : List String :=
  if word = [] then [] else [String.ofList word.reverse]

/-- Words of letters and digits; `word` holds the characters of the one under way, last first. -/
def readWords (position : Nat) (word : List Char) : List Char → Except Offence (List String)
  | [] => .ok (closeWord word)
  | c :: rest =>
    if isAlphanumeric c then readWords (position + 1) (c :: word) rest
    else if c = ' ' then
      (readWords (position + 1) [] rest).map (closeWord word ++ ·)
    else .error (.invalidCharacter position c)

def ofChars (line : List Char) : Except Offence Declaration :=
  let name := line.takeWhile isAlphanumeric
  match line.dropWhile isAlphanumeric with
  | [] => .error .missingSeparator
  | c :: rest =>
    if c = ':' then
      (readWords (name.length + 1) [] rest).map (⟨String.ofList name, ·⟩)
    else .error (.invalidCharacter name.length c)

def parse (line : String) : Except GrammarError Declaration :=
  (ofChars line.toList).mapError (⟨line, 0, ·⟩)

end TaskRunner.Declaration
