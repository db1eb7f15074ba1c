import TaskRunner.Graph
import TaskRunner.Source.Declarations

/-! The second reading of a task file. It gives every task of a graph the actions of its block and
passes over the blocks of all other tasks. Blocks that were read before an error stay. -/

namespace TaskRunner.Source

/-- Reads on from the cursor; `count` is the number of blocks attached so far. -/
def attachBlocks (path : String) (g : Graph) (c : Cursor) (store : Store) (count : Nat) :
    Except ScanError Nat × Store :=
  match _read : nextDeclaration path c with
  | (.error e, _) => (.error e, store)
  | (.ok none, _) => (.ok count, store)
  | (.ok (some d), head) =>
    match _block : head.takeActionBlock (g.contains d.name) with
    | (.error e, _) => (.error (.unreadable path e), store)
    | (.ok actions, rest) =>
      if g.contains d.name then
        attachBlocks path g rest (store.setActions d.name actions).2 (count + 1)
      else attachBlocks path g rest store count
termination_by c.size
decreasing_by
  all_goals
    have less := size_nextDeclaration _read
    have rest_le := head.size_takeActionBlock_le (g.contains d.name)
    rw [_block] at rest_le
    exact Nat.lt_of_le_of_lt rest_le less

/-- Answers how many blocks were attached, and the store with the actions. -/
def attachActions (path : String) (g : Graph) (c : Cursor) (store : Store) :
    Except ScanError Nat × Store :=
  attachBlocks path g c store 0

end TaskRunner.Source
