import TaskRunner.Bytes
import TaskRunner.IoError
import TaskRunner.Text.WhiteSpace

/-! The lines of a task file. A line feed ends a line, together with one carriage return right
before it; the last line may do without. Every line is decoded on its own, so that a line that is
no text spoils itself and not its neighbours. A line that starts with a space or a tab belongs to
the block of actions above it, and so does a blank line. -/

namespace TaskRunner.Source
open Text

abbrev Line := Except IoError String

def lineFeed : UInt8 := 10
def carriageReturn : UInt8 := 13

def dropReturn (line : Bytes) : Bytes :=
  if line.getLast? = some carriageReturn then line.dropLast else line

def splitLine (bytes : Bytes) : Bytes × Bytes :=
  match bytes.dropWhile (· ≠ lineFeed) with
  | [] => (bytes.takeWhile (· ≠ lineFeed), [])
  | _ :: rest => (dropReturn (bytes.takeWhile (· ≠ lineFeed)), rest)

theorem length_splitLine {bytes : Bytes} (unread : bytes ≠ []) :
    (splitLine bytes).2.length < bytes.length := by
  have cut := (List.dropWhile_suffix (l := bytes) (· ≠ lineFeed)).length_le
  unfold splitLine
  split
  · exact List.length_pos_iff.mpr unread
  · rename_i found
    rw [found] at cut
    exact cut

def decode (line : Bytes) : Line :=
  match line.toString? with
  | some text => .ok text
  | none => .error .malformedText

def lines (bytes : Bytes) : List Line :=
  if _unread : bytes = [] then []
  else decode (splitLine bytes).1 :: lines (splitLine bytes).2
termination_by bytes.length
decreasing_by exact length_splitLine _unread

def isIndent (c : Char) : Bool := c = ' ' || c = '\t'

def isActionLine (line : String) : Bool := line.toList.head?.any isIndent

def isBlankLine (line : String) : Bool := line.toList.all isWhiteSpace

/-- The action on an indented line: all of it but the indentation. -/
def actionText (line : String) : String := String.ofList (line.toList.dropWhile isIndent)

end TaskRunner.Source
