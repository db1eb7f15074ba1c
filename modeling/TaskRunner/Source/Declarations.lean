import TaskRunner.Declaration.Parser
import TaskRunner.ScanError
import TaskRunner.Source.Cursor
import TaskRunner.Store

/-! The declarations of a task file. Blank lines are passed over, every other line must declare a
new task, and the block of actions after it is left for a later reading. The first line that does
not fit decides the error. -/

namespace TaskRunner.Source

/-- Reads the next declaration, if there is one; `path` names the file in errors. -/
def nextDeclaration (path : String) (c : Cursor) :
    Except ScanError (Option Declaration) × Cursor :=
  match c.nextNonBlank with
  | (.ok (some line), c) =>
    match Declaration.parse line with
    | .ok d => (.ok (some d), c)
    | .error e => (.error (.grammar (e.atLine c.lineNumber)), c)
  | (.ok none, c) => (.ok none, c)
  | (.error e, c) => (.error (.unreadable path e), c)

theorem size_nextDeclaration {path : String} {c after : Cursor} {d : Declaration}
    (read : nextDeclaration path c = (.ok (some d), after)) : after.size < c.size := by
  unfold nextDeclaration at read
  split at read
  · next taken =>
    split at read
    · cases read
      exact Cursor.size_nextNonBlank taken
    · simp at read
  · simp at read
  · simp at read

def addDeclarations (path : String) (c : Cursor) (store : Store) : Except ScanError Store :=
  match _read : nextDeclaration path c with
  | (.error e, _) => .error e
  | (.ok none, _) => .ok store
  | (.ok (some d), head) =>
    match store.insert d with
    | .error taken => .error (.duplicateTask taken.name head.lineNumber)
    | .ok store =>
      match _skipped : head.takeActionBlock false with
      | (.error e, _) => .error (.unreadable path e)
      | (.ok _, rest) => addDeclarations path rest store
termination_by c.size
decreasing_by
  have less := size_nextDeclaration _read
  have rest_le := head.size_takeActionBlock_le false
  rw [_skipped] at rest_le
  exact Nat.lt_of_le_of_lt rest_le less

/-- The tasks that a file declares; there has to be one. -/
def scan (path : String) (c : Cursor) : Except ScanError Store :=
  match addDeclarations path c .empty with
  | .ok store => if store.isEmpty then .error (.emptyFile path) else .ok store
  | .error e => .error e

end TaskRunner.Source
