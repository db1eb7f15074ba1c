import TaskRunner.Proofs.Source.Passes

/-! Reading declarations line by line. A survey takes one line after the other and looks neither
ahead nor back: it keeps the number of lines taken, whether a task was declared, and the store. A
scan gives what a survey of all lines gives, with the same line numbers in its errors. -/

namespace TaskRunner.Source

structure Survey where
  taken : Nat := 0
  begun : Bool := false
  store : Store := .empty

namespace Survey

def passesOver (s : Survey) (line : String) : Bool :=
  isBlankLine line || s.begun && isActionLine line

def declare (s : Survey) (line : String) : Except ScanError Survey :=
  match Declaration.parse line with
  | .error e => .error (.grammar { e with lineNumber := s.taken + 1 })
  | .ok d =>
    match s.store.insert d with
    | .error other => .error (.duplicateTask other.name (s.taken + 1))
    | .ok store => .ok ⟨s.taken + 1, true, store⟩

def readLine (path : String) (s : Survey) : Line → Except ScanError Survey
  | .error e => .error (.unreadable path e)
  | .ok line => if s.passesOver line then .ok { s with taken := s.taken + 1 } else s.declare line

def readLines (path : String) (s : Survey) (pending : List Line) : Except ScanError Survey :=
  pending.foldlM (readLine path) s

variable {path : String} {s : Survey} {line : String} {rest pending : List Line}

theorem readLines_error (path : String) (s : Survey) (e : IoError) (rest : List Line) :
    s.readLines path (.error e :: rest) = .error (.unreadable path e) := rfl

theorem readLines_passed (passed : s.passesOver line = true) :
    s.readLines path (.ok line :: rest) =
      ({ s with taken := s.taken + 1 } : Survey).readLines path rest := by
  rw [readLines, List.foldlM_cons, readLine, if_pos passed]
  rfl

theorem readLines_declared (present : s.passesOver line = false) :
    s.readLines path (.ok line :: rest) = s.declare line >>= (readLines path · rest) := by
  rw [readLines, List.foldlM_cons, readLine, present]
  rfl

theorem readLines_append {block : List String} (n : Nat) (begun : Bool) (store : Store)
    (passed : ∀ line ∈ block, passesOver ⟨n, begun, store⟩ line = true) :
    readLines path ⟨n, begun, store⟩ (block.map .ok ++ rest) =
      readLines path ⟨n + block.length, begun, store⟩ rest := by
  induction block generalizing n with
  | nil => rfl
  | cons line block ih =>
    have later := ih (n + 1) fun other member => passed other (List.mem_cons_of_mem _ member)
    rw [List.map_cons, List.cons_append, readLines_passed (passed line List.mem_cons_self), later,
      List.length_cons, Nat.add_assoc, Nat.add_comm 1]

/-- Where no block goes on, it does not matter whether a task was declared before. -/
theorem store_readLines_begun (ends : ∀ line rest, pending = .ok line :: rest → ¬ inBlock line)
    (n : Nat) (store : Store) :
    (readLines path ⟨n, true, store⟩ pending).map (·.store) =
      (readLines path ⟨n, false, store⟩ pending).map (·.store) := by
  cases pending with
  | nil => rfl
  | cons line rest =>
    cases line with
    | error e => rfl
    | ok line =>
      have outside : inBlock line = false := Bool.eq_false_iff.mpr (ends line rest rfl)
      rw [inBlock_eq] at outside
      obtain ⟨present, free⟩ := Bool.or_eq_false_iff.mp outside
      rw [readLines_declared (by simp [passesOver, present, free]),
        readLines_declared (by simp [passesOver, present])]
      rfl

theorem declare_refused {e : GrammarError} (refused : Declaration.parse line = .error e) :
    s.declare line = .error (.grammar { e with lineNumber := s.taken + 1 }) := by
  rw [declare, refused]

theorem declare_taken {d other : Declaration} (parsed : Declaration.parse line = .ok d)
    (known : s.store.insert d = .error other) :
    s.declare line = .error (.duplicateTask other.name (s.taken + 1)) := by
  rw [declare, parsed]
  simp only [known]

theorem declare_ok {d : Declaration} {store : Store} (parsed : Declaration.parse line = .ok d)
    (inserted : s.store.insert d = .ok store) :
    s.declare line = .ok ⟨s.taken + 1, true, store⟩ := by
  rw [declare, parsed]
  simp only [inserted]

theorem readLines_takeActionBlock (path : String) (head : Cursor) (store : Store) :
    (readLines path ⟨head.lineNumber, true, store⟩ head.reader.pending).map (·.store) =
      match head.takeActionBlock false with
      | (.ok _, after) =>
        (readLines path ⟨after.lineNumber, false, store⟩ after.reader.pending).map (·.store)
      | (.error e, _) => .error (.unreadable path e) := by
  have reading : Reader.takeBlock _ _ _ = _ := head.reader_takeActionBlock false
  have passed : ∀ line ∈ (splitBlock head.reader.pending).1,
      passesOver ⟨head.lineNumber, true, store⟩ line = true := by
    intro line member
    rw [passesOver, Bool.true_and]
    exact inBlock_splitBlock member
  have ends := @splitBlock_ends head.reader.pending
  rw [pending_splitBlock head.reader.pending, readLines_append _ _ _ passed]
  unfold Reader.takeBlock at reading
  rcases taken : head.takeActionBlock false with ⟨answer, after⟩
  rw [taken] at reading
  split at reading
  next block e rest cut =>
    obtain ⟨rfl, _⟩ := Prod.mk.inj reading
    rw [cut, readLines_error]
    rfl
  next block rest other cut =>
    obtain ⟨rfl, stands⟩ := Prod.mk.inj reading
    rw [cut] at ends ⊢
    have begun := @store_readLines_begun path rest (fun line rest' same => ends same)
      (head.lineNumber + block.length) store
    have number : head.lineNumber + block.length = after.lineNumber :=
      congrArg Reader.lineNumber stands
    have left : rest = after.reader.pending := congrArg Reader.pending stands
    dsimp only
    rw [begun, ← left, ← number]

theorem readLines_nextDeclaration (path : String) (c : Cursor) (store : Store) :
    match nextDeclaration path c with
    | (.error e, _) => readLines path ⟨c.lineNumber, false, store⟩ c.reader.pending = .error e
    | (.ok none, _) =>
      (readLines path ⟨c.lineNumber, false, store⟩ c.reader.pending).map (·.store) = .ok store
    | (.ok (some d), head) => ∃ before line, head.lineNumber = before + 1 ∧
      Declaration.parse line = .ok d ∧
      readLines path ⟨c.lineNumber, false, store⟩ c.reader.pending =
        declare ⟨before, false, store⟩ line >>= (readLines path · head.reader.pending) := by
  obtain ⟨blanks, blank, ends⟩ := Reader.firstNonBlank_cases c.reader.pending c.lineNumber
  have passed : ∀ line ∈ blanks, passesOver ⟨c.lineNumber, false, store⟩ line = true := by
    intro line member
    rw [passesOver, blank line member, Bool.true_or]
  have reading : Reader.firstNonBlank _ c.lineNumber = _ := c.reader_nextNonBlank
  unfold nextDeclaration
  rcases taken : c.nextNonBlank with ⟨answer, after⟩
  rw [taken] at reading
  rcases ends with ⟨split, read⟩ | ⟨e, rest, split, read⟩ | ⟨line, rest, present, split, read⟩
  all_goals
    obtain ⟨rfl, stands⟩ := Prod.mk.inj (reading.symm.trans read)
    rw [split, readLines_append _ _ _ passed]
  · rfl
  · rfl
  · have declares : passesOver ⟨c.lineNumber + blanks.length, false, store⟩ line = false := by
      rw [passesOver, present, Bool.false_or, Bool.false_and]
    have number : after.lineNumber = _ := congrArg Reader.lineNumber stands
    rw [readLines_declared declares]
    cases parsed : Declaration.parse line with
    | ok d =>
      simp only [parsed]
      exact ⟨_, line, number, parsed, by rw [show after.reader = _ from stands]⟩
    | error e =>
      simp only [parsed]
      rw [declare_refused parsed, number]
      rfl

/-- A scan with its lookahead finds what a survey of the lines finds. -/
theorem addDeclarations_eq (path : String) (c : Cursor) (store : Store) :
    addDeclarations path c store =
      (readLines path ⟨c.lineNumber, false, store⟩ c.reader.pending).map (·.store) := by
  fun_induction addDeclarations path c store with
  | case1 c store e after read =>
    have next := readLines_nextDeclaration path c store
    rw [read] at next
    rw [next]
    rfl
  | case2 c store after read =>
    have next := readLines_nextDeclaration path c store
    rw [read] at next
    exact next.symm
  | case3 c store d head read other known =>
    have next := readLines_nextDeclaration path c store
    rw [read] at next
    obtain ⟨before, line, number, parsed, surveyed⟩ := next
    rw [surveyed, declare_taken parsed known, number]
    rfl
  | case4 c store d head read middle inserted e after block =>
    have next := readLines_nextDeclaration path c store
    rw [read] at next
    obtain ⟨before, line, number, parsed, surveyed⟩ := next
    have failed := readLines_takeActionBlock path head middle
    rw [block, number] at failed
    rw [surveyed, declare_ok parsed inserted]
    exact failed.symm
  | case5 c store d head read middle inserted _ rest block ih =>
    have next := readLines_nextDeclaration path c store
    rw [read] at next
    obtain ⟨before, line, number, parsed, surveyed⟩ := next
    have later := readLines_takeActionBlock path head middle
    rw [block, number] at later
    rw [ih, surveyed, declare_ok parsed inserted]
    exact later.symm

theorem addDeclarations_ofBytes (path : String) (bytes : Bytes) :
    addDeclarations path (.ofBytes bytes) .empty =
      (readLines path {} (lines bytes)).map (·.store) := addDeclarations_eq path (.ofBytes bytes) .empty

end Survey
end TaskRunner.Source
