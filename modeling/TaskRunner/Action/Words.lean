import TaskRunner.Text.WhiteSpace

/-! How an action is cut up. The program reaches up to the first space. What follows is cut into
words at white space; a double quote hides white space up to the next double quote, and up to the
end if there is none. Quotes are dropped, and a word may be made of quotes alone. There is no
escape character and no other quote. -/

namespace TaskRunner.Action
open Text

def splitProgram (action : String) : String × String :=
  (String.ofList (action.toList.takeWhile (· ≠ ' ')),
    String.ofList (action.toList.dropWhile (· ≠ ' ')))

def closeWord : Option (List Char) → List String
  | none => []
  | some word => [String.ofList word.reverse]

/-- Reads words; `word` holds the characters of the one under way, last first, and `quoted` tells
whether a quote is open. -/
def readWords (quoted : Bool) (word : Option (List Char)) : List Char → List String
  | [] => closeWord word
  | c :: rest =>
    if c = '"' then readWords (!quoted) (some (word.getD [])) rest
    else if isWhiteSpace c && !quoted then closeWord word ++ readWords quoted none rest
    else readWords quoted (some (c :: word.getD [])) rest

def splitArguments (raw : String) : List String := readWords false none raw.toList

end TaskRunner.Action
