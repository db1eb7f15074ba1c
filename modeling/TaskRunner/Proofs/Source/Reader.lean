import TaskRunner.Source.Cursor

/-! Reading without lookahead. A reader holds the lines that were not taken and counts those that
were; a line that is no text goes without being counted. A cursor is such a reader, with the line
that it saw ahead in front of the lines it has not split off yet. -/

namespace TaskRunner.Source

/-- A line of white space alone, or one that begins with a space or a tab. -/
def inBlock (line : String) : Bool :=
  line.toList.all Text.isWhiteSpace || line.toList.head?.any fun c => c = ' ' || c = '\t'

theorem inBlock_eq (line : String) : inBlock line = (isBlankLine line || isActionLine line) := rfl

/-- The lines of a block that say something, without the spaces and tabs in front of them. -/
def actionsIn (block : List String) : List String :=
  (block.filter fun line => !line.toList.all Text.isWhiteSpace).map fun line =>
    String.ofList (line.toList.dropWhile fun c => c = ' ' || c = '\t')

theorem actionsIn_eq (block : List String) :
    actionsIn block = (block.filter (!isBlankLine ·)).map actionText := rfl

theorem actionsIn_cons (line : String) (block : List String) :
    actionsIn (line :: block) = actionsIn [line] ++ actionsIn block := by
  unfold actionsIn
  rw [← List.map_append, ← List.filter_append]
  rfl

/-- The longest run of lines that can belong to one block, and everything after it. -/
def splitBlock : List Line → List String × List Line
  | .ok line :: rest =>
    if inBlock line then (line :: (splitBlock rest).1, (splitBlock rest).2)
    else ([], .ok line :: rest)
  | rest => ([], rest)

structure Reader where
  pending : List Line
  lineNumber : Nat

namespace Reader

abbrev Reading (α : Type) := Except IoError α × Reader

def nextLine : Reader → Reading (Option String)
  | ⟨[], n⟩ => (.ok none, ⟨[], n⟩)
  | ⟨.ok line :: rest, n⟩ => (.ok (some line), ⟨rest, n + 1⟩)
  | ⟨.error e :: rest, n⟩ => (.error e, ⟨rest, n⟩)

def peekLine : Reader → Reading (Option String)
  | ⟨.ok line :: rest, n⟩ => (.ok (some line), ⟨.ok line :: rest, n⟩)
  | r => r.nextLine

def firstNonBlank : List Line → Nat → Reading (Option String)
  | .ok line :: rest, n =>
    if isBlankLine line then firstNonBlank rest (n + 1) else (.ok (some line), ⟨rest, n + 1⟩)
  | pending, n => nextLine ⟨pending, n⟩

def nextNonBlank (r : Reader) : Reading (Option String) := firstNonBlank r.pending r.lineNumber

/-- Takes a block and answers its actions behind those kept before. A line that is no text makes it
fail if it comes right after the block. -/
def takeBlock (keep : Bool) (before : List String) (r : Reader) : Reading (List String) :=
  match splitBlock r.pending with
  | (block, .error e :: rest) => (.error e, ⟨rest, r.lineNumber + block.length⟩)
  | (block, rest) =>
    (.ok (before ++ if keep then actionsIn block else []), ⟨rest, r.lineNumber + block.length⟩)

def takeActionBlock (keep : Bool) (r : Reader) : Reading (List String) := r.takeBlock keep []

variable {r after : Reader} {line : String} {e : IoError}

theorem nextLine_some (read : r.nextLine = (.ok (some line), after)) :
    r = ⟨.ok line :: after.pending, r.lineNumber⟩ ∧ after.lineNumber = r.lineNumber + 1 := by
  unfold nextLine at read
  split at read <;> cases read
  exact ⟨rfl, rfl⟩

theorem nextLine_none (read : r.nextLine = (.ok none, after)) :
    r = ⟨[], r.lineNumber⟩ ∧ after = r := by
  unfold nextLine at read
  split at read <;> cases read
  exact ⟨rfl, rfl⟩

theorem nextLine_error (read : r.nextLine = (.error e, after)) :
    r = ⟨.error e :: after.pending, after.lineNumber⟩ := by
  unfold nextLine at read
  split at read <;> cases read
  rfl

theorem peekLine_some (read : r.peekLine = (.ok (some line), after)) :
    after = r ∧ ∃ rest, r = ⟨.ok line :: rest, r.lineNumber⟩ := by
  unfold peekLine at read
  split at read
  next =>
    cases read
    exact ⟨rfl, _, rfl⟩
  next unread => exact absurd (nextLine_some read).1 (unread _ _ _)

theorem peekLine_none (read : r.peekLine = (.ok none, after)) :
    r = ⟨[], r.lineNumber⟩ ∧ after = r := by
  unfold peekLine at read
  split at read
  next => cases read
  next => exact nextLine_none read

theorem peekLine_error (read : r.peekLine = (.error e, after)) :
    r = ⟨.error e :: after.pending, after.lineNumber⟩ := by
  unfold peekLine at read
  split at read
  next => cases read
  next => exact nextLine_error read

theorem firstNonBlank_cases (pending : List Line) (n : Nat) :
    ∃ blanks : List String, (∀ line ∈ blanks, isBlankLine line = true) ∧
      ((pending = blanks.map .ok ++ [] ∧
        firstNonBlank pending n = (.ok none, ⟨[], n + blanks.length⟩)) ∨
      (∃ e rest, pending = blanks.map .ok ++ .error e :: rest ∧
        firstNonBlank pending n = (.error e, ⟨rest, n + blanks.length⟩)) ∨
      ∃ line rest, isBlankLine line = false ∧ pending = blanks.map .ok ++ .ok line :: rest ∧
        firstNonBlank pending n = (.ok (some line), ⟨rest, n + blanks.length + 1⟩)) := by
  fun_induction firstNonBlank pending n with
  | case1 line rest n empty ih =>
    obtain ⟨blanks, blank, ends⟩ := ih
    have count : n + (line :: blanks).length = n + 1 + blanks.length := by
      rw [List.length_cons]
      omega
    refine ⟨line :: blanks, List.forall_mem_cons.mpr ⟨empty, blank⟩, ?_⟩
    simpa only [count, List.map_cons, List.cons_append, List.cons.injEq, true_and] using ends
  | case2 line rest n present =>
    exact ⟨[], nofun, .inr (.inr ⟨line, rest, Bool.eq_false_iff.mpr present, rfl, rfl⟩)⟩
  | case3 pending n other =>
    refine ⟨[], nofun, ?_⟩
    rcases pending with _ | ⟨_ | line, rest⟩
    · exact .inl ⟨rfl, rfl⟩
    · exact .inr (.inl ⟨_, rest, rfl, rfl⟩)
    · exact absurd rfl (other line rest)

theorem takeBlock_cons (keep : Bool) (before : List String) {line : String} (inside : inBlock line)
    (rest : List Line) (n : Nat) :
    takeBlock keep before ⟨.ok line :: rest, n⟩ =
      takeBlock keep (before ++ if keep then actionsIn [line] else []) ⟨rest, n + 1⟩ := by
  unfold takeBlock
  simp only [splitBlock, if_pos inside]
  have count (block : List String) : n + (line :: block).length = n + 1 + block.length := by
    rw [List.length_cons]
    omega
  rcases splitBlock rest with ⟨block, _ | ⟨_ | next, rest⟩⟩
  · cases keep <;> simp only [count, actionsIn_cons line block] <;> simp
  · simp only [count]
  · cases keep <;> simp only [count, actionsIn_cons line block] <;> simp

theorem takeBlock_outside (keep : Bool) (before : List String) {line : String}
    (outside : ¬ inBlock line) (rest : List Line) (n : Nat) :
    takeBlock keep before ⟨.ok line :: rest, n⟩ = (.ok before, ⟨.ok line :: rest, n⟩) := by
  unfold takeBlock
  simp [splitBlock, outside, actionsIn_eq]

end Reader

theorem lines_nil : lines [] = [] := by
  unfold lines
  rfl

theorem lines_cons {bytes : Bytes} (unread : bytes ≠ []) :
    lines bytes = decode (splitLine bytes).1 :: lines (splitLine bytes).2 := by
  rw [lines, dif_neg unread]

namespace Cursor

def reader (c : Cursor) : Reader :=
  ⟨c.peeked.toList.map .ok ++ lines c.unread, c.lineNumber⟩

theorem reader_afterPeeked {c : Cursor} {line : String} (seen : c.peeked = some line) :
    ∃ rest, c.reader = ⟨.ok line :: rest, c.lineNumber⟩ ∧
      c.afterPeeked.reader = ⟨rest, c.lineNumber + 1⟩ := by
  refine ⟨lines c.unread, ?_, rfl⟩
  rw [reader, seen]
  rfl

theorem reader_nextLine (c : Cursor) :
    c.reader.nextLine = (c.nextLine.1, c.nextLine.2.reader) := by
  unfold nextLine
  split
  next line seen => simp [reader, seen, afterPeeked, Reader.nextLine]
  next unseen =>
    unfold fetch
    by_cases unread : c.unread = []
    · simp [reader, unseen, unread, lines_nil, Reader.nextLine]
    · rw [reader, lines_cons unread, if_neg unread]
      cases decode (splitLine c.unread).1 with
      | ok line => simp [reader, unseen, Except.map, Reader.nextLine]
      | error e => simp [reader, unseen, Except.map, Reader.nextLine]

theorem reader_peekLine (c : Cursor) :
    c.reader.peekLine = (c.peekLine.1, c.peekLine.2.reader) := by
  unfold peekLine
  split
  next line seen => simp [reader, seen, Reader.peekLine]
  next unseen =>
    unfold fetch
    by_cases unread : c.unread = []
    · simp [reader, unseen, unread, lines_nil, Reader.peekLine, Reader.nextLine]
    · rw [reader, lines_cons unread, if_neg unread]
      cases decode (splitLine c.unread).1 with
      | ok line => simp [reader, unseen, Except.map, Reader.peekLine]
      | error e => simp [reader, unseen, Except.map, Reader.peekLine, Reader.nextLine]

theorem reader_nextNonBlank (c : Cursor) :
    c.reader.nextNonBlank = (c.nextNonBlank.1, c.nextNonBlank.2.reader) := by
  fun_induction nextNonBlank c with
  | case1 c line after read blank ih =>
    have taken := reader_nextLine c
    rw [read] at taken
    obtain ⟨first, number⟩ := Reader.nextLine_some taken
    rw [← ih, Reader.nextNonBlank, first, Reader.firstNonBlank, if_pos blank, ← number]
    rfl
  | case2 c line after read present =>
    have taken := reader_nextLine c
    rw [read] at taken
    obtain ⟨first, number⟩ := Reader.nextLine_some taken
    rw [Reader.nextNonBlank, first, Reader.firstNonBlank, if_neg present, ← number]
  | case3 c after read =>
    have taken := reader_nextLine c
    rw [read] at taken
    obtain ⟨ended, same⟩ := Reader.nextLine_none taken
    rw [same, Reader.nextNonBlank, ended]
    rfl
  | case4 c e after read =>
    have taken := reader_nextLine c
    rw [read] at taken
    rw [Reader.nextNonBlank, Reader.nextLine_error taken]
    rfl

theorem toList_keepAction (keep : Bool) (before : Array String) (line : String) :
    (keepAction keep before line).toList =
      before.toList ++ if keep then actionsIn [line] else [] := by
  rw [actionsIn_eq, keepAction]
  cases keep with
  | false => simp
  | true => cases blank : isBlankLine line <;> simp [blank]

theorem reader_takeBlock (keep : Bool) (before : Array String) (c : Cursor) :
    c.reader.takeBlock keep before.toList =
      ((c.takeBlock keep before).1, (c.takeBlock keep before).2.reader) := by
  fun_induction takeBlock keep before c with
  | case1 before c line ahead seen inside ih =>
    have peeked := reader_peekLine c
    rw [seen] at peeked
    obtain ⟨rest, first, taken⟩ := reader_afterPeeked (size_peekLine seen).1
    rw [← ih, ← (Reader.peekLine_some peeked).1, first, taken, Reader.takeBlock_cons keep _ inside,
      toList_keepAction]
  | case2 before c line ahead seen outside =>
    have peeked := reader_peekLine c
    rw [seen] at peeked
    obtain ⟨same, rest, first⟩ := Reader.peekLine_some peeked
    rw [first, Reader.takeBlock_outside keep _ outside, ← first]
    exact congrArg (Prod.mk _) same.symm
  | case3 before c ahead seen =>
    have peeked := reader_peekLine c
    rw [seen] at peeked
    obtain ⟨ended, same⟩ := Reader.peekLine_none peeked
    rw [same, ended]
    cases keep <;> simp [Reader.takeBlock, splitBlock, actionsIn_eq]
  | case4 before c e ahead seen =>
    have peeked := reader_peekLine c
    rw [seen] at peeked
    rw [Reader.peekLine_error peeked]
    rfl

theorem reader_takeActionBlock (keep : Bool) (c : Cursor) :
    c.reader.takeActionBlock keep =
      ((c.takeActionBlock keep).1, (c.takeActionBlock keep).2.reader) :=
  reader_takeBlock keep #[] c

end Cursor
end TaskRunner.Source
