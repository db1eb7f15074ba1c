import TaskRunner.Proofs.Declaration.Writing

/-! Where a line that declares nothing goes wrong. What stands before the offence can still be
continued to a declaration, and with the offence it cannot; or the line ends where the colon is
missing. -/

namespace TaskRunner.Declaration
open Text

def IsDeclaration (line : String) : Prop := ∃ d, parse line = .ok d

/-- Some line that begins so declares a task. -/
def Viable (front : List Char) : Prop :=
  ∃ line : String, front <+: line.toList ∧ IsDeclaration line

/-- The place in a line from which on nothing makes it a declaration. A missing separator can be
put behind the line. -/
inductive FirstOffence (line : String) : Offence → Prop
  | invalidCharacter {position : Nat} {found : Char} (inside : position < line.length)
      (there : line.toList[position]? = some found) (before : Viable (line.toList.take position))
      (behind : ¬ Viable (line.toList.take (position + 1))) :
      FirstOffence line (.invalidCharacter position found)
  | missingSeparator (letters : IsWord line) (completed : IsDeclaration (line ++ ":")) :
      FirstOffence line .missingSeparator

theorem isDeclaration_iff {line : String} :
    IsDeclaration line ↔ ∃ d, ofChars line.toList = .ok d :=
  exists_congr fun _ => parse_eq_ok

theorem viable_iff {front : List Char} :
    Viable front ↔ ∃ more d, ofChars (front ++ more) = .ok d := by
  constructor
  · rintro ⟨line, ⟨more, whole⟩, declares⟩
    exact ⟨more, whole ▸ isDeclaration_iff.mp declares⟩
  · rintro ⟨more, read⟩
    refine ⟨String.ofList (front ++ more), ?_, isDeclaration_iff.mpr ?_⟩
    · rw [String.toList_ofList]
      exact List.prefix_append ..
    · rwa [String.toList_ofList]

theorem Viable.of_prefix {front longer : List Char} (begins : front <+: longer)
    (viable : Viable longer) : Viable front := by
  obtain ⟨line, begins', declares⟩ := viable
  exact ⟨line, begins.trans begins', declares⟩

theorem viable_name {name : List Char} (letters : ∀ c ∈ name, isAlphanumeric c = true) :
    Viable name :=
  viable_iff.mpr ⟨[':'], (exists_ofChars_iff _).mpr ⟨name, [], rfl, letters, nofun⟩⟩

theorem not_viable_name {name : List Char} (letters : ∀ c ∈ name, isAlphanumeric c = true) {c : Char}
    (stops : isAlphanumeric c = false) (other : c ≠ ':') : ¬ Viable (name ++ [c]) := by
  rw [viable_iff]
  rintro ⟨more, d, read⟩
  rw [List.append_assoc] at read
  cases (ofChars_other letters stops other more).symm.trans read

theorem viable_words {name words : List Char} (letters : ∀ c ∈ name, isAlphanumeric c = true)
    (follow : ∀ c ∈ words, MayFollow c) : Viable (name ++ ':' :: words) := by
  refine viable_iff.mpr ⟨[], ?_⟩
  rw [List.append_nil]
  exact (exists_ofChars_iff _).mpr ⟨name, words, rfl, letters, follow⟩

theorem not_viable_words {name : List Char} (letters : ∀ c ∈ name, isAlphanumeric c = true)
    (words : List Char) {c : Char} (stops : ¬ MayFollow c) :
    ¬ Viable (name ++ ':' :: words ++ [c]) := by
  rw [viable_iff]
  rintro ⟨more, d, read⟩
  rw [List.append_assoc, List.append_assoc, List.cons_append, ofChars_colon letters] at read
  obtain ⟨list, read', _⟩ := map_eq_ok read
  exact stops ((exists_readWords_iff _ _ _).mp ⟨list, read'⟩ c (by simp))

theorem FirstOffence.of_split {line : String} {front rest : List Char} {found : Char}
    (split : line.toList = front ++ found :: rest) (before : Viable front)
    (behind : ¬ Viable (front ++ [found])) :
    FirstOffence line (.invalidCharacter front.length found) := by
  have upTo : line.toList.take (front.length + 1) = front ++ [found] := by
    rw [split, List.take_length_add_append]
    rfl
  refine .invalidCharacter ?_ ?_ ?_ (upTo ▸ behind)
  · rw [← String.length_toList, split, List.length_append, List.length_cons]
    omega
  · rw [split, List.getElem?_append_right (Nat.le_refl _), Nat.sub_self]
    rfl
  · rwa [split, List.take_left]

theorem firstOffence_of_ofChars {line : String} {offence : Offence}
    (refused : ofChars line.toList = .error offence) : FirstOffence line offence := by
  obtain ⟨name, letters, whole | ⟨c, rest, stops, whole⟩⟩ := exists_name line.toList
  · have completed : (line ++ ":").toList = name ++ [':'] := by simp [whole]
    rw [whole, ofChars_name letters] at refused
    cases refused
    refine .missingSeparator (fun c member => letters c (whole ▸ member)) (isDeclaration_iff.mpr ?_)
    rw [completed]
    exact (exists_ofChars_iff _).mpr ⟨name, [], rfl, letters, nofun⟩
  · by_cases colon : c = ':'
    · subst colon
      rw [whole, ofChars_colon letters] at refused
      rcases readWords_cases (name.length + 1) [] rest with
        ⟨_, words, read⟩ | ⟨before, c, after, rfl, follow, stops', failed⟩
      · rw [read] at refused
        cases refused
      · have split : line.toList = name ++ ':' :: before ++ c :: after := by
          rw [whole, List.append_assoc]
          rfl
        have place : name.length + 1 + before.length = (name ++ ':' :: before).length := by
          rw [List.length_append, List.length_cons]
          omega
        rw [failed, place] at refused
        cases refused
        exact .of_split split (viable_words letters follow) (not_viable_words letters before stops')
    · rw [whole, ofChars_other letters stops colon] at refused
      cases refused
      exact .of_split whole (viable_name letters) (not_viable_name letters stops colon)

namespace FirstOffence

variable {line : String} {offence other : Offence}

theorem not_isDeclaration (first : FirstOffence line offence) : ¬ IsDeclaration line := by
  intro declares
  cases first with
  | invalidCharacter _ _ _ behind => exact behind ⟨line, List.take_prefix .., declares⟩
  | missingSeparator letters =>
    obtain ⟨d, read⟩ := isDeclaration_iff.mp declares
    cases (ofChars_name letters).symm.trans read

theorem le_of_viable {position count : Nat} {found : Char}
    (first : FirstOffence line (.invalidCharacter position found))
    (viable : Viable (line.toList.take count)) : count ≤ position := by
  cases first with
  | invalidCharacter _ _ _ behind =>
    rcases Nat.lt_or_ge position count with later | early
    · exact absurd (viable.of_prefix (List.take_prefix_take_left later)) behind
    · exact early

theorem viable_take (missing : FirstOffence line .missingSeparator) (count : Nat) :
    Viable (line.toList.take count) := by
  cases missing with
  | missingSeparator _ completed =>
    refine ⟨line ++ ":", (List.take_prefix count _).trans ?_, completed⟩
    rw [String.toList_append]
    exact List.prefix_append ..

theorem le_position {position position' : Nat} {found found' : Char}
    (first : FirstOffence line (.invalidCharacter position found))
    (first' : FirstOffence line (.invalidCharacter position' found')) : position' ≤ position := by
  cases first' with
  | invalidCharacter _ _ before => exact first.le_of_viable before

theorem not_invalidCharacter {position : Nat} {found : Char}
    (missing : FirstOffence line .missingSeparator) :
    ¬ FirstOffence line (.invalidCharacter position found) :=
  fun first => Nat.not_succ_le_self position (first.le_of_viable (missing.viable_take (position + 1)))

theorem unique (first : FirstOffence line offence) (first' : FirstOffence line other) :
    offence = other := by
  cases offence with
  | missingSeparator =>
    cases other with
    | missingSeparator => rfl
    | invalidCharacter position found => exact absurd first' first.not_invalidCharacter
  | invalidCharacter position found =>
    cases other with
    | missingSeparator => exact absurd first first'.not_invalidCharacter
    | invalidCharacter position' found' =>
      obtain rfl := Nat.le_antisymm (first'.le_position first) (first.le_position first')
      cases first with
      | invalidCharacter _ there =>
        cases first' with
        | invalidCharacter _ there' =>
          rw [Option.some.inj (there.symm.trans there')]

end FirstOffence

/-- A line is refused for its first offence and for nothing else, and the error holds the line as it
is. -/
theorem parse_error_iff (line : String) (e : GrammarError) :
    parse line = .error e ↔
      e.line = line ∧ e.lineNumber = 0 ∧ FirstOffence line e.offence := by
  rw [parse_eq_error]
  refine and_congr_right fun _ => and_congr_right fun _ => ⟨firstOffence_of_ofChars, fun first => ?_⟩
  cases read : ofChars line.toList with
  | ok d => exact absurd (isDeclaration_iff.mpr ⟨d, read⟩) first.not_isDeclaration
  | error found => rw [(firstOffence_of_ofChars read).unique first]

example : parse "build: lib-a" = .error ⟨"build: lib-a", 0, .invalidCharacter 10 '-'⟩ := by decide

end TaskRunner.Declaration
