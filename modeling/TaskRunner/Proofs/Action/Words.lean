import TaskRunner.Action.Words

/-! The words of an argument string, said of the whole string at once. It is cut at white space that
has an even number of quotes in front of it; a piece in which there is nothing is no word, and the
others are words without their quotes. Reading character by character, with a flag for an open quote
and a word under way, comes to the same. -/

namespace TaskRunner.Action
open Text

/-- A character with its place: white space separates if the quotes in front of it are even in
number. -/
def separates (chars : List Char) (entry : Char × Nat) : Bool :=
  isWhiteSpace entry.1 && (chars.take entry.2).count '"' % 2 == 0

/-- The string cut at all its separators. -/
def pieces (chars : List Char) : List (List Char) :=
  (chars.zipIdx.splitOnP (separates chars)).map (·.map Prod.fst)

def withoutQuotes (piece : List Char) : List Char := piece.filter (· ≠ '"')

/-- The words that these pieces are. -/
def wordsOf (pieces : List (List Char)) : List String :=
  (pieces.filter (· ≠ [])).map fun piece => String.ofList (withoutQuotes piece)

/-! The same behind a beginning of the string. -/

def piecesAfter (before rest : List Char) : List (List Char) :=
  ((rest.zipIdx before.length).splitOnP (separates (before ++ rest))).map (·.map Prod.fst)

def isOpen (before : List Char) : Bool := before.count '"' % 2 == 1

def underWay (piece : List Char) : Option (List Char) :=
  if piece = [] then none else some (withoutQuotes piece).reverse

theorem pieces_eq (chars : List Char) : pieces chars = piecesAfter [] chars := rfl

theorem piecesAfter_nil (before : List Char) : piecesAfter before [] = [[]] := rfl

theorem isOpen_concat (before : List Char) (c : Char) :
    isOpen (before ++ [c]) = if c = '"' then !isOpen before else isOpen before := by
  unfold isOpen
  rw [List.count_append, List.count_singleton]
  by_cases quote : c = '"'
  · rcases Nat.mod_two_eq_zero_or_one (before.count '"') with even | odd
    · simp [quote, even, Nat.add_mod]
    · simp [quote, odd, Nat.add_mod]
  · simp [quote]

theorem separates_append (before : List Char) (c : Char) (rest : List Char) :
    separates (before ++ c :: rest) (c, before.length) = (isWhiteSpace c && !isOpen before) := by
  unfold separates isOpen
  rw [List.take_left' rfl]
  rcases Nat.mod_two_eq_zero_or_one (before.count '"') with even | odd
  · simp [even]
  · simp [odd]

theorem piecesAfter_cons (before : List Char) (c : Char) (rest : List Char) :
    piecesAfter before (c :: rest) =
      if isWhiteSpace c && !isOpen before then [] :: piecesAfter (before ++ [c]) rest
      else (piecesAfter (before ++ [c]) rest).modifyHead (c :: ·) := by
  have later : before ++ c :: rest = before ++ [c] ++ rest := by simp
  have number : before.length + 1 = (before ++ [c]).length := by simp
  unfold piecesAfter
  rw [List.zipIdx_cons, List.splitOnP_cons_eq_if_modifyHead, separates_append, later, number]
  split
  · rfl
  · cases (rest.zipIdx (before ++ [c]).length).splitOnP (separates (before ++ [c] ++ rest)) <;> rfl

theorem wordsOf_cons (piece : List Char) (others : List (List Char)) :
    wordsOf (piece :: others) = closeWord (underWay piece) ++ wordsOf others := by
  unfold wordsOf underWay
  by_cases empty : piece = []
  · simp [empty, closeWord]
  · simp [empty, closeWord]

theorem wordsOf_append (first second : List (List Char)) :
    wordsOf (first ++ second) = wordsOf first ++ wordsOf second := by
  rw [wordsOf, List.filter_append, List.map_append]
  rfl

theorem modifyHead_nil_append (found : List (List Char)) :
    found.modifyHead ([] ++ ·) = found := by
  cases found <;> rfl

theorem modifyHead_append_cons (piece : List Char) (c : Char) (found : List (List Char)) :
    (found.modifyHead (c :: ·)).modifyHead (piece ++ ·) =
      found.modifyHead (piece ++ [c] ++ ·) := by
  cases found with
  | nil => rfl
  | cons first others => simp

theorem underWay_quote (piece : List Char) :
    underWay (piece ++ ['"']) = some ((underWay piece).getD []) := by
  unfold underWay withoutQuotes
  by_cases empty : piece = [] <;> simp [empty]

theorem underWay_concat (piece : List Char) {c : Char} (plain : c ≠ '"') :
    underWay (piece ++ [c]) = some (c :: (underWay piece).getD []) := by
  unfold underWay withoutQuotes
  by_cases empty : piece = [] <;> simp [empty, plain]

/-- The reader in the middle of the string: a quote is open behind an odd number of quotes, and the
word under way is the piece since the last separator. -/
theorem readWords_eq (before piece rest : List Char) :
    readWords (isOpen before) (underWay piece) rest =
      wordsOf ((piecesAfter before rest).modifyHead (piece ++ ·)) := by
  induction rest generalizing before piece with
  | nil =>
    rw [piecesAfter_nil, List.modifyHead_cons, List.append_nil, wordsOf_cons]
    exact (List.append_nil _).symm
  | cons c rest ih =>
    have later := ih (before ++ [c])
    rw [isOpen_concat] at later
    rw [readWords, piecesAfter_cons]
    by_cases quote : c = '"'
    · subst quote
      have inside : (isWhiteSpace '"' && !isOpen before) = false := by
        rw [isWhiteSpace_quote, Bool.false_and]
      rw [if_pos rfl] at later
      rw [if_pos rfl, inside, if_neg Bool.false_ne_true, modifyHead_append_cons, ← later,
        underWay_quote]
    · rw [if_neg quote] at later
      rw [if_neg quote]
      split
      next =>
        have fresh := later []
        rw [modifyHead_nil_append] at fresh
        rw [List.modifyHead_cons, List.append_nil, wordsOf_cons, ← fresh]
        rfl
      next => rw [modifyHead_append_cons, ← later, underWay_concat piece quote]

theorem splitArguments_eq_wordsOf (raw : String) :
    splitArguments raw = wordsOf (pieces raw.toList) := by
  have read := readWords_eq [] [] raw.toList
  rwa [modifyHead_nil_append] at read

/-! What the words keep of the string. -/

theorem quote_not_mem_withoutQuotes (piece : List Char) : '"' ∉ withoutQuotes piece := by
  simp [withoutQuotes]

theorem quote_not_mem_splitArguments {raw word : String} (member : word ∈ splitArguments raw) :
    '"' ∉ word.toList := by
  rw [splitArguments_eq_wordsOf] at member
  obtain ⟨piece, _, rfl⟩ := List.mem_map.mp member
  rw [String.toList_ofList]
  exact quote_not_mem_withoutQuotes piece

theorem withoutQuotes_of_not_mem {piece : List Char} (plain : '"' ∉ piece) :
    withoutQuotes piece = piece := by
  rw [withoutQuotes, List.filter_eq_self]
  intro c member
  exact decide_eq_true fun quote => plain (quote ▸ member)

theorem withoutQuotes_eq_nil_iff (piece : List Char) :
    withoutQuotes piece = [] ↔ ∀ c ∈ piece, c = '"' := by
  simp [withoutQuotes]

theorem flatMap_wordsOf (found : List (List Char)) :
    (wordsOf found).flatMap String.toList = found.flatten.filter (· ≠ '"') := by
  induction found with
  | nil => rfl
  | cons piece others ih =>
    rw [wordsOf_cons, List.flatMap_append, ih, List.flatten_cons, List.filter_append]
    congr 1
    unfold underWay
    split
    next empty => rw [empty]; rfl
    next => simp [closeWord, withoutQuotes]

theorem flatten_splitOnP {α : Type} (p : α → Bool) (entries : List α) :
    (entries.splitOnP p).flatten = entries.filter (!p ·) := by
  induction entries with
  | nil => rfl
  | cons entry entries ih =>
    rw [List.splitOnP_cons_eq_if_modifyHead, List.filter_cons]
    cases cut : p entry with
    | true => exact ih
    | false =>
      rw [← ih]
      cases found : entries.splitOnP p with
      | nil => exact absurd found (List.splitOnP_ne_nil p entries)
      | cons first others => rfl

theorem flatMap_splitArguments (raw : String) :
    (splitArguments raw).flatMap String.toList =
      (raw.toList.zipIdx.filter fun entry =>
        entry.1 ≠ '"' && !separates raw.toList entry).map Prod.fst := by
  rw [splitArguments_eq_wordsOf, flatMap_wordsOf, pieces, ← List.map_flatten, flatten_splitOnP,
    List.filter_map, List.filter_filter]
  rfl

theorem mem_of_mem_splitArguments {raw word : String} {c : Char}
    (member : word ∈ splitArguments raw) (inside : c ∈ word.toList) : c ∈ raw.toList := by
  have kept : c ∈ (splitArguments raw).flatMap String.toList :=
    List.mem_flatMap.mpr ⟨word, member, inside⟩
  rw [flatMap_splitArguments] at kept
  obtain ⟨⟨other, place⟩, filtered, rfl⟩ := List.mem_map.mp kept
  have entry := (List.mem_filter.mp filtered).1
  exact List.fst_mem_of_mem_zipIdx entry

theorem exists_piecesAfter_append (before middle rest : List Char) :
    ∃ front start, piecesAfter before (middle ++ rest) =
      front ++ (piecesAfter (before ++ middle) rest).modifyHead (start ++ ·) := by
  induction middle generalizing before with
  | nil =>
    refine ⟨[], [], ?_⟩
    rw [modifyHead_nil_append, List.append_nil]
    rfl
  | cons c middle ih =>
    obtain ⟨front, start, split⟩ := ih (before ++ [c])
    have shift : before ++ [c] ++ middle = before ++ c :: middle := by simp
    rw [shift] at split
    rw [List.cons_append, piecesAfter_cons, split]
    by_cases ends : (isWhiteSpace c && !isOpen before) = true
    · exact ⟨[] :: front, start, if_pos ends⟩
    · rw [if_neg ends]
      cases front with
      | nil =>
        refine ⟨[], c :: start, ?_⟩
        cases piecesAfter (before ++ c :: middle) rest <;> rfl
      | cons first others => exact ⟨(c :: first) :: others, start, rfl⟩

theorem piecesAfter_of_open {before rest : List Char} (opened : isOpen before = true)
    (unclosed : '"' ∉ rest) : piecesAfter before rest = [rest] := by
  induction rest generalizing before with
  | nil => rfl
  | cons c rest ih =>
    rw [List.mem_cons, not_or] at unclosed
    have still : isOpen (before ++ [c]) = true := by
      rw [isOpen_concat, if_neg (Ne.symm unclosed.1), opened]
    rw [piecesAfter_cons, opened, Bool.not_true, Bool.and_false, if_neg Bool.false_ne_true,
      ih still unclosed.2]
    rfl

/-- A quote that is never closed reaches the end of the string. -/
theorem splitArguments_of_open {raw : String} {before rest : List Char}
    (split : raw.toList = before ++ '"' :: rest) (closed : before.count '"' % 2 = 0)
    (unclosed : '"' ∉ rest) :
    ∃ words start, splitArguments raw = words ++ [String.ofList (start ++ rest)] := by
  have shut : isOpen before = false := by simp [isOpen, closed]
  have opened : isOpen (before ++ ['"']) = true := by
    rw [isOpen_concat, if_pos rfl, shut, Bool.not_false]
  have last : piecesAfter before ('"' :: rest) = ['"' :: rest] := by
    rw [piecesAfter_cons, isWhiteSpace_quote, Bool.false_and, if_neg Bool.false_ne_true,
      piecesAfter_of_open opened unclosed]
    rfl
  obtain ⟨front, start, cut⟩ := exists_piecesAfter_append [] before ('"' :: rest)
  rw [List.nil_append, last] at cut
  have word : withoutQuotes (start ++ '"' :: rest) = withoutQuotes start ++ rest := by
    rw [withoutQuotes, List.filter_append, List.filter_cons_of_neg (by decide)]
    exact congrArg _ (withoutQuotes_of_not_mem unclosed)
  refine ⟨wordsOf front, withoutQuotes start, ?_⟩
  rw [splitArguments_eq_wordsOf, split, pieces_eq, cut, wordsOf_append, ← word]
  simp [wordsOf]

theorem empty_mem_splitArguments_iff (raw : String) :
    "" ∈ splitArguments raw ↔ ∃ piece ∈ pieces raw.toList, piece ≠ [] ∧ ∀ c ∈ piece, c = '"' := by
  rw [splitArguments_eq_wordsOf, wordsOf, List.mem_map]
  constructor
  · rintro ⟨piece, member, empty⟩
    obtain ⟨inside, filled⟩ := List.mem_filter.mp member
    rw [String.ofList_eq_empty_iff, withoutQuotes_eq_nil_iff] at empty
    exact ⟨piece, inside, of_decide_eq_true filled, empty⟩
  · rintro ⟨piece, inside, filled, quotes⟩
    refine ⟨piece, List.mem_filter.mpr ⟨inside, decide_eq_true filled⟩, ?_⟩
    rw [(withoutQuotes_eq_nil_iff piece).mpr quotes]

/-- Splitting is cutting at the white space with an even number of quotes in front of it, leaving
out the pieces that are empty and the quotes of the others. So a piece of quotes alone is an empty
word, a quote that is never closed reaches the end, and all characters but quotes and separators are
kept once and in order. -/
theorem splitArguments_exact (raw : String) :
    splitArguments raw =
        ((pieces raw.toList).filter (· ≠ [])).map
          (fun piece => String.ofList (piece.filter (· ≠ '"'))) ∧
      ("" ∈ splitArguments raw ↔
        ∃ piece ∈ pieces raw.toList, piece ≠ [] ∧ ∀ c ∈ piece, c = '"') ∧
      (∀ before rest, raw.toList = before ++ '"' :: rest → before.count '"' % 2 = 0 →
        '"' ∉ rest → ∃ words start,
          splitArguments raw = words ++ [String.ofList (start ++ rest)]) ∧
      (splitArguments raw).flatMap String.toList =
        (raw.toList.zipIdx.filter fun entry =>
          entry.1 ≠ '"' && !separates raw.toList entry).map Prod.fst :=
  ⟨splitArguments_eq_wordsOf raw, empty_mem_splitArguments_iff raw,
    fun _ _ => splitArguments_of_open, flatMap_splitArguments raw⟩

example : splitArguments " pre\"fix suf\"fix \"\"\t\"open ended" =
    ["prefix suffix", "", "open ended"] := by decide

end TaskRunner.Action
