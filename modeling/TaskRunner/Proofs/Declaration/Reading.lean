import Mathlib.Data.List.TakeWhile
import TaskRunner.Declaration.Parser

/-! How a line is read by parts: the letters and digits of the name, the character behind them, and
behind a colon the words. Letters, digits and spaces can always be read there, and any other character
ends the reading at its place. -/

namespace TaskRunner.Declaration
open Text

theorem map_eq_ok {ε α β : Type} {change : α → β} {answer : Except ε α} {changed : β}
    (mapped : answer.map change = .ok changed) : ∃ value, answer = .ok value ∧ change value = changed := by
  cases answer with
  | error e => cases mapped
  | ok value => exact ⟨value, rfl, Except.ok.inj mapped⟩

theorem parse_eq_ok {line : String} {d : Declaration} :
    parse line = .ok d ↔ ofChars line.toList = .ok d := by
  unfold parse
  cases ofChars line.toList <;> simp [Except.mapError]

theorem parse_eq_error {line : String} {e : GrammarError} :
    parse line = .error e ↔
      e.line = line ∧ e.lineNumber = 0 ∧ ofChars line.toList = .error e.offence := by
  obtain ⟨text, number, offence⟩ := e
  unfold parse
  cases ofChars line.toList <;> simp [Except.mapError, eq_comm]

theorem exists_name (line : List Char) :
    ∃ name, (∀ c ∈ name, isAlphanumeric c = true) ∧
      (line = name ∨ ∃ c rest, isAlphanumeric c = false ∧ line = name ++ c :: rest) := by
  refine ⟨line.takeWhile isAlphanumeric, fun c => List.mem_takeWhile_imp, ?_⟩
  have whole := List.takeWhile_append_dropWhile (p := isAlphanumeric) (l := line)
  cases behind : line.dropWhile isAlphanumeric with
  | nil =>
    rw [behind, List.append_nil] at whole
    exact .inl whole.symm
  | cons c rest =>
    have stops := List.head_dropWhile_not isAlphanumeric (l := line) (by simp [behind])
    rw [behind] at whole
    simp only [behind, List.head_cons] at stops
    exact .inr ⟨c, rest, stops, whole.symm⟩

section Name
variable {name : List Char} (letters : ∀ c ∈ name, isAlphanumeric c = true)
include letters

theorem ofChars_name : ofChars name = .error .missingSeparator := by
  have nothing : name.dropWhile isAlphanumeric = [] := List.dropWhile_eq_nil_iff.mpr letters
  rw [ofChars, nothing]

theorem ofChars_cons {c : Char} (stops : isAlphanumeric c = false) (rest : List Char) :
    ofChars (name ++ c :: rest) =
      if c = ':' then (readWords (name.length + 1) [] rest).map (⟨String.ofList name, ·⟩)
      else .error (.invalidCharacter name.length c) := by
  have behind : (name ++ c :: rest).dropWhile isAlphanumeric = c :: rest := by
    rw [List.dropWhile_append_of_pos letters, List.dropWhile_cons_of_neg (by simp [stops])]
  have front : (name ++ c :: rest).takeWhile isAlphanumeric = name := by
    rw [List.takeWhile_append_of_pos letters, List.takeWhile_cons_of_neg (by simp [stops]),
      List.append_nil]
  rw [ofChars, behind, front]

theorem ofChars_colon (rest : List Char) :
    ofChars (name ++ ':' :: rest) =
      (readWords (name.length + 1) [] rest).map (⟨String.ofList name, ·⟩) := by
  rw [ofChars_cons letters isAlphanumeric_colon, if_pos rfl]

theorem ofChars_other {c : Char} (stops : isAlphanumeric c = false) (other : c ≠ ':')
    (rest : List Char) :
    ofChars (name ++ c :: rest) = .error (.invalidCharacter name.length c) := by
  rw [ofChars_cons letters stops, if_neg other]

end Name

def MayFollow (c : Char) : Prop := isAlphanumeric c = true ∨ c = ' '

theorem readWords_cases (position : Nat) (word chars : List Char) :
    ((∀ c ∈ chars, MayFollow c) ∧ ∃ words, readWords position word chars = .ok words) ∨
      ∃ before c after, chars = before ++ c :: after ∧ (∀ other ∈ before, MayFollow other) ∧
        ¬ MayFollow c ∧
        readWords position word chars = .error (.invalidCharacter (position + before.length) c) := by
  fun_induction readWords position word chars with
  | case1 position word => exact .inl ⟨nofun, _, rfl⟩
  | case2 position word c rest letter ih =>
    rcases ih with ⟨follow, words, read⟩ | ⟨before, other, after, rfl, follow, stops, failed⟩
    · exact .inl ⟨List.forall_mem_cons.mpr ⟨.inl letter, follow⟩, words, read⟩
    · refine .inr ⟨c :: before, other, after, rfl, List.forall_mem_cons.mpr ⟨.inl letter, follow⟩,
        stops, ?_⟩
      rw [failed, List.length_cons, Nat.add_assoc, Nat.add_comm 1]
  | case3 position word rest _ ih =>
    rcases ih with ⟨follow, words, read⟩ | ⟨before, other, after, rfl, follow, stops, failed⟩
    · rw [read]
      exact .inl ⟨List.forall_mem_cons.mpr ⟨.inr rfl, follow⟩, _, rfl⟩
    · refine .inr ⟨' ' :: before, other, after, rfl, List.forall_mem_cons.mpr ⟨.inr rfl, follow⟩,
        stops, ?_⟩
      rw [failed, List.length_cons, Nat.add_assoc, Nat.add_comm 1]
      rfl
  | case4 position word c rest other space =>
    exact .inr ⟨[], c, rest, rfl, nofun, not_or.mpr ⟨other, space⟩, rfl⟩

theorem exists_readWords_iff (position : Nat) (word chars : List Char) :
    (∃ words, readWords position word chars = .ok words) ↔ ∀ c ∈ chars, MayFollow c := by
  rcases readWords_cases position word chars with
    ⟨follow, read⟩ | ⟨before, c, after, rfl, _, stops, failed⟩
  · exact iff_of_true read follow
  · refine iff_of_false ?_ fun follow => stops (follow c (by simp))
    rintro ⟨words, read⟩
    cases failed.symm.trans read

theorem exists_ofChars_iff (line : List Char) :
    (∃ d, ofChars line = .ok d) ↔ ∃ name rest, line = name ++ ':' :: rest ∧
      (∀ c ∈ name, isAlphanumeric c = true) ∧ ∀ c ∈ rest, MayFollow c := by
  constructor
  · rintro ⟨d, read⟩
    obtain ⟨name, letters, rfl | ⟨c, rest, stops, rfl⟩⟩ := exists_name line
    · cases (ofChars_name letters).symm.trans read
    · by_cases colon : c = ':'
      · subst colon
        rw [ofChars_colon letters] at read
        obtain ⟨words, read', _⟩ := map_eq_ok read
        exact ⟨name, rest, rfl, letters, (exists_readWords_iff _ _ _).mp ⟨words, read'⟩⟩
      · cases (ofChars_other letters stops colon rest).symm.trans read
  · rintro ⟨name, rest, rfl, letters, follow⟩
    obtain ⟨words, read⟩ := (exists_readWords_iff (name.length + 1) [] rest).mpr follow
    rw [ofChars_colon letters, read]
    exact ⟨_, rfl⟩

end TaskRunner.Declaration
