import TaskRunner.Source.Line

/-! A place in a task file, from which lines are read one at a time. The cursor can look one line
ahead; the line that it saw waits in `peeked` and is counted when it is taken. A line that is no
text is an error once: it is gone afterwards, was never counted, and reading goes on behind it. -/

namespace TaskRunner.Source

structure Cursor where
  unread : Bytes
  peeked : Option String := none
  lineNumber : Nat := 0

namespace Cursor

/-- An answer comes with the cursor that stands behind what was read, also after an error. -/
abbrev Reading (α : Type) := Except IoError α × Cursor

def ofBytes (bytes : Bytes) : Cursor := { unread := bytes }

def size (c : Cursor) : Nat := c.unread.length + c.peeked.toList.length

def fetch (c : Cursor) : Reading (Option String) :=
  if c.unread = [] then (.ok none, c)
  else ((decode (splitLine c.unread).1).map some, { c with unread := (splitLine c.unread).2 })

def afterPeeked (c : Cursor) : Cursor := { c with peeked := none, lineNumber := c.lineNumber + 1 }

def nextLine (c : Cursor) : Reading (Option String) :=
  match c.peeked with
  | some line => (.ok (some line), c.afterPeeked)
  | none =>
    match c.fetch with
    | (.ok (some line), c) => (.ok (some line), { c with lineNumber := c.lineNumber + 1 })
    | (.ok none, c) => (.ok none, c)
    | (.error e, c) => (.error e, c)

def peekLine (c : Cursor) : Reading (Option String) :=
  match c.peeked with
  | some line => (.ok (some line), c)
  | none =>
    match c.fetch with
    | (.ok (some line), c) => (.ok (some line), { c with peeked := some line })
    | (.ok none, c) => (.ok none, c)
    | (.error e, c) => (.error e, c)

theorem size_fetch {c after : Cursor} {answer : Except IoError (Option String)}
    (read : c.fetch = (answer, after)) :
    after.peeked = c.peeked ∧
      (answer = .ok none ∧ after = c ∨ after.unread.length < c.unread.length) := by
  unfold fetch at read
  split at read
  · cases read
    exact ⟨rfl, .inl ⟨rfl, rfl⟩⟩
  · next unread =>
    cases read
    exact ⟨rfl, .inr (length_splitLine unread)⟩

theorem size_nextLine {c after : Cursor} {line : String}
    (read : c.nextLine = (.ok (some line), after)) : after.size < c.size := by
  unfold nextLine at read
  split at read
  · next seen =>
    cases read
    simp [size, afterPeeked, seen]
  · split at read
    · next fetched =>
      cases read
      obtain ⟨same, ended | shorter⟩ := size_fetch fetched
      · simp at ended
      · simp only [size, same]
        omega
    · simp at read
    · simp at read

theorem size_peekLine {c after : Cursor} {line : String}
    (read : c.peekLine = (.ok (some line), after)) :
    after.peeked = some line ∧ after.unread.length < c.size := by
  unfold peekLine at read
  split at read
  · next seen =>
    cases read
    exact ⟨seen, by simp [size, seen]⟩
  · next unseen =>
    split at read
    · next fetched =>
      cases read
      obtain ⟨_, ended | shorter⟩ := size_fetch fetched
      · simp at ended
      · exact ⟨rfl, by simpa [size, unseen] using shorter⟩
    · simp at read
    · simp at read

theorem size_afterPeeked {c ahead : Cursor} {line : String}
    (seen : c.peekLine = (.ok (some line), ahead)) : ahead.afterPeeked.size < c.size := by
  simpa [size, afterPeeked] using (size_peekLine seen).2

theorem size_peekLine_le (c : Cursor) : c.peekLine.2.size ≤ c.size := by
  unfold peekLine
  split
  · exact Nat.le_refl _
  · next unseen =>
    split
    all_goals
      next fetched =>
      obtain ⟨same, ⟨_, rfl⟩ | shorter⟩ := size_fetch fetched
      · simp_all [size]
      · simp only [size, same, unseen, Option.toList_none, Option.toList_some,
          List.length_nil, List.length_singleton] at shorter ⊢
        omega

def nextNonBlank (c : Cursor) : Reading (Option String) :=
  match _read : c.nextLine with
  | (.ok (some line), after) =>
    if isBlankLine line then after.nextNonBlank else (.ok (some line), after)
  | (.ok none, after) => (.ok none, after)
  | (.error e, after) => (.error e, after)
termination_by c.size
decreasing_by exact size_nextLine _read

theorem size_nextNonBlank {c after : Cursor} {line : String}
    (read : c.nextNonBlank = (.ok (some line), after)) : after.size < c.size := by
  fun_induction nextNonBlank c with
  | case1 c found next taken blank ih => exact Nat.lt_trans (ih read) (size_nextLine taken)
  | case2 c found next taken present =>
    cases read
    exact size_nextLine taken
  | case3 c next taken => simp at read
  | case4 c e next taken => simp at read

def keepAction (keep : Bool) (actions : Array String) (line : String) : Array String :=
  if keep && !isBlankLine line then actions.push (actionText line) else actions

def takeBlock (keep : Bool) (actions : Array String) (c : Cursor) : Reading (List String) :=
  match _seen : c.peekLine with
  | (.ok (some line), ahead) =>
    if isBlankLine line || isActionLine line then
      ahead.afterPeeked.takeBlock keep (keepAction keep actions line)
    else (.ok actions.toList, ahead)
  | (.ok none, ahead) => (.ok actions.toList, ahead)
  | (.error e, ahead) => (.error e, ahead)
termination_by c.size
decreasing_by exact size_afterPeeked _seen

theorem size_takeBlock_le (keep : Bool) (actions : Array String) (c : Cursor) :
    (c.takeBlock keep actions).2.size ≤ c.size := by
  fun_induction takeBlock keep actions c with
  | case1 actions c line ahead seen inside ih =>
    exact Nat.le_of_lt (Nat.lt_of_le_of_lt ih (size_afterPeeked seen))
  | case2 actions c line ahead seen outside => simpa [seen] using size_peekLine_le c
  | case3 actions c ahead seen => simpa [seen] using size_peekLine_le c
  | case4 actions c e ahead seen => simpa [seen] using size_peekLine_le c

/-- Takes the block of actions that follows a declaration. The block ends before the first line
that is neither blank nor indented. Its actions are answered if they are to be kept. -/
def takeActionBlock (keep : Bool) (c : Cursor) : Reading (List String) := c.takeBlock keep #[]

theorem size_takeActionBlock_le (keep : Bool) (c : Cursor) :
    (c.takeActionBlock keep).2.size ≤ c.size := size_takeBlock_le keep #[] c

end Cursor
end TaskRunner.Source
