import TaskRunner.Proofs.Declaration.Reading

/-! How a declaration can be written: the name, a colon, and the dependencies with spaces between
them and any spaces around them. Each of these ways is read back as the same declaration. -/

namespace TaskRunner.Declaration
open Text

def spaces (count : Nat) : String := String.ofList (List.replicate count ' ')

def IsWord (word : String) : Prop := ∀ c ∈ word.toList, isAlphanumeric c = true

instance (word : String) : Decidable (IsWord word) :=
  decidable_of_iff (word.toList.all isAlphanumeric = true) List.all_eq_true

/-- Words with at least one space between two of them, and any spaces before and behind. -/
inductive SpacedWords : List String → String → Prop
  | none (count : Nat) : SpacedWords [] (spaces count)
  | last (count : Nat) (word : String) : SpacedWords [word] (spaces count ++ word)
  | next (count : Nat) (word : String) {words : List String} {text : String}
      (later : SpacedWords words text) :
      SpacedWords (word :: words) (spaces count ++ word ++ " " ++ text)

def WrittenAs (d : Declaration) (line : String) : Prop :=
  ∃ text, SpacedWords d.dependencies text ∧ line = d.name ++ ":" ++ text

theorem SpacedWords.mem_chars {words : List String} {text : String}
    (written : SpacedWords words text) (letters : ∀ word ∈ words, IsWord word) :
    ∀ c ∈ text.toList, isAlphanumeric c = true ∨ c = ' ' := by
  have blank {count : Nat} {c : Char} (member : c ∈ (spaces count).toList) : c = ' ' := by
    rw [spaces, String.toList_ofList] at member
    exact List.eq_of_mem_replicate member
  induction written with
  | none count => exact fun c member => .inr (blank member)
  | last count word =>
    intro c member
    rw [String.toList_append, List.mem_append] at member
    rcases member with space | letter
    · exact .inr (blank space)
    · exact .inl (letters word List.mem_cons_self c letter)
  | @next count word words text later ih =>
    intro c member
    rw [String.toList_append, String.toList_append, String.toList_append, List.mem_append,
      List.mem_append, List.mem_append] at member
    rcases member with ((space | letter) | single) | other
    · exact .inr (blank space)
    · exact .inl (letters word List.mem_cons_self c letter)
    · exact .inr (List.mem_singleton.mp single)
    · exact ih (fun other member => letters other (List.mem_cons_of_mem _ member)) c other

theorem WrittenAs.mem_chars {d : Declaration} {line : String} (written : d.WrittenAs line)
    (named : IsWord d.name) (letters : ∀ word ∈ d.dependencies, IsWord word) :
    ∀ c ∈ line.toList, isAlphanumeric c = true ∨ c = ' ' ∨ c = ':' := by
  obtain ⟨text, spaced, rfl⟩ := written
  intro c member
  rw [String.toList_append, String.toList_append, List.mem_append, List.mem_append] at member
  rcases member with (letter | colon) | other
  · exact .inl (named c letter)
  · exact .inr (.inr (List.mem_singleton.mp colon))
  · exact (spaced.mem_chars letters c other).imp_right .inl

theorem closeWord_of_ne_nil {word : List Char} (present : word ≠ []) :
    closeWord word = [String.ofList word.reverse] := if_neg present

theorem readWords_spaces (count position : Nat) (rest : List Char) :
    readWords position [] (List.replicate count ' ' ++ rest) =
      readWords (position + count) [] rest := by
  induction count generalizing position with
  | zero => rfl
  | succ count ih =>
    rw [List.replicate_succ, List.cons_append, readWords, if_neg (by decide), if_pos rfl, ih]
    have unchanged (answer : Except Offence (List String)) :
        answer.map (closeWord [] ++ ·) = answer := by
      cases answer <;> rfl
    rw [unchanged, Nat.add_assoc, Nat.add_comm 1]

theorem readWords_word {word : List Char} (letters : ∀ c ∈ word, isAlphanumeric c = true)
    (position : Nat) (before rest : List Char) :
    readWords position before (word ++ rest) =
      readWords (position + word.length) (word.reverse ++ before) rest := by
  induction word generalizing position before with
  | nil => rfl
  | cons c word ih =>
    have later := ih fun other member => letters other (List.mem_cons_of_mem _ member)
    rw [List.cons_append, readWords, if_pos (letters c List.mem_cons_self), later,
      List.length_cons, List.reverse_cons, List.append_assoc, Nat.add_assoc, Nat.add_comm 1]
    rfl

theorem SpacedWords.readWords {words : List String} {text : String}
    (written : SpacedWords words text) (present : ∀ word ∈ words, word ≠ "" ∧ IsWord word)
    (position : Nat) : Declaration.readWords position [] text.toList = .ok words := by
  have close {word : String} (filled : word ≠ "") :
      closeWord (word.toList.reverse ++ []) = [word] := by
    rw [closeWord_of_ne_nil (by simpa using filled)]
    simp
  induction written generalizing position with
  | none count =>
    have read := readWords_spaces count position []
    rw [List.append_nil] at read
    rw [spaces, String.toList_ofList, read]
    rfl
  | last count word =>
    obtain ⟨filled, letters⟩ := present word List.mem_cons_self
    have read := readWords_word letters (position + count) [] []
    rw [List.append_nil] at read
    rw [String.toList_append, spaces, String.toList_ofList, readWords_spaces, read]
    exact congrArg Except.ok (close filled)
  | @next count word words text later ih =>
    obtain ⟨filled, letters⟩ := present word List.mem_cons_self
    have others := ih fun other member => present other (List.mem_cons_of_mem _ member)
    have chars : (spaces count ++ word ++ " " ++ text).toList =
        List.replicate count ' ' ++ (word.toList ++ ' ' :: text.toList) := by
      simp [spaces]
    rw [chars, readWords_spaces, readWords_word letters, Declaration.readWords,
      if_neg (by decide), if_pos rfl, others, close filled]
    rfl

theorem parse_of_writtenAs {d : Declaration} {line : String} (written : d.WrittenAs line)
    (named : IsWord d.name) (present : ∀ word ∈ d.dependencies, word ≠ "" ∧ IsWord word) :
    parse line = .ok d := by
  obtain ⟨text, spaced, rfl⟩ := written
  have chars : (d.name ++ ":" ++ text).toList = d.name.toList ++ ':' :: text.toList := by simp
  rw [parse_eq_ok, chars, ofChars_colon named, spaced.readWords present, String.ofList_toList]
  rfl

end TaskRunner.Declaration
