import TaskRunner.Proofs.Declaration.Writing

/-! The lines that declare a task are those in which it can be written, and none besides. A line
leaves no choice of the task: its words are the longest runs of letters and digits, and all else in
it is a colon and spaces. -/

namespace TaskRunner.Declaration
open Text

/-- The line is the task's name, a colon, and its dependencies between spaces. -/
structure DeclaredBy (d : Declaration) (line : String) : Prop where
  named : IsWord d.name
  words : ∀ word ∈ d.dependencies, word ≠ "" ∧ IsWord word
  written : d.WrittenAs line

/-! What is read is written in the line. -/

theorem spaces_append (first second : Nat) :
    spaces first ++ spaces second = spaces (first + second) := by
  rw [spaces, spaces, ← String.ofList_append, List.replicate_append_replicate, spaces]

theorem SpacedWords.indent {words : List String} {text : String} (written : SpacedWords words text)
    (count : Nat) : SpacedWords words (spaces count ++ text) := by
  cases written with
  | none count' =>
    rw [spaces_append]
    exact .none _
  | last count' word =>
    rw [← String.append_assoc, spaces_append]
    exact .last _ word
  | next count' word later =>
    rw [← String.append_assoc, ← String.append_assoc, ← String.append_assoc, spaces_append]
    exact .next _ word later

theorem words_closeWord {word : List Char} (letters : ∀ c ∈ word, isAlphanumeric c = true) :
    ∀ closed ∈ closeWord word, closed ≠ "" ∧ IsWord closed := by
  intro closed member
  by_cases empty : word = []
  · rw [closeWord, if_pos empty] at member
    cases member
  · rw [closeWord_of_ne_nil empty, List.mem_singleton] at member
    subst member
    refine ⟨by simpa using empty, fun c letter => letters c ?_⟩
    simpa using letter

theorem spacedWords_of_readWords {position : Nat} {word chars : List Char} {words : List String}
    (letters : ∀ c ∈ word, isAlphanumeric c = true)
    (read : readWords position word chars = .ok words) :
    SpacedWords words (String.ofList (word.reverse ++ chars)) ∧
      ∀ closed ∈ words, closed ≠ "" ∧ IsWord closed := by
  fun_induction readWords position word chars generalizing words with
  | case1 position word =>
    cases read
    refine ⟨?_, words_closeWord letters⟩
    by_cases empty : word = []
    · rw [empty, closeWord, if_pos rfl]
      exact .none 0
    · rw [closeWord_of_ne_nil empty, List.append_nil]
      exact .last 0 _
  | case2 position word c rest letter ih =>
    have longer := ih (List.forall_mem_cons.mpr ⟨letter, letters⟩) read
    rwa [List.reverse_cons, List.append_assoc] at longer
  | case3 position word rest _ ih =>
    obtain ⟨others, later, rfl⟩ := map_eq_ok read
    obtain ⟨spaced, filled⟩ := ih (List.forall_mem_nil _) later
    refine ⟨?_, List.forall_mem_append.mpr ⟨words_closeWord letters, filled⟩⟩
    by_cases empty : word = []
    · have text : String.ofList (word.reverse ++ ' ' :: rest) =
          spaces 1 ++ String.ofList rest := by
        rw [empty, spaces, ← String.ofList_append]
        rfl
      rw [text, empty]
      exact spaced.indent 1
    · have text : String.ofList (word.reverse ++ ' ' :: rest) =
          spaces 0 ++ String.ofList word.reverse ++ " " ++ String.ofList rest := by
        apply String.toList_inj.mp
        simp [spaces]
      rw [text, closeWord_of_ne_nil empty]
      exact .next 0 _ spaced
  | case4 => cases read

theorem declaredBy_of_parse {d : Declaration} {line : String} (parsed : parse line = .ok d) :
    d.DeclaredBy line := by
  rw [parse_eq_ok] at parsed
  obtain ⟨name, rest, whole, letters, _⟩ := (exists_ofChars_iff _).mp ⟨d, parsed⟩
  rw [whole, ofChars_colon letters] at parsed
  obtain ⟨words, read, rfl⟩ := map_eq_ok parsed
  obtain ⟨spaced, filled⟩ := spacedWords_of_readWords (List.forall_mem_nil _) read
  refine ⟨fun c member => letters c (by simpa using member), filled, _, spaced, ?_⟩
  apply String.toList_inj.mp
  simp [whole]

theorem parse_eq_ok_iff {d : Declaration} {line : String} :
    parse line = .ok d ↔ d.DeclaredBy line :=
  ⟨declaredBy_of_parse, fun declared =>
    parse_of_writtenAs declared.written declared.named declared.words⟩

/-! What is written in the line is all of it but the colon and the spaces. -/

def runs (chars : List Char) : List (List Char) :=
  (chars.splitOnP (!isAlphanumeric ·)).filter (· ≠ [])

def withoutMarks (chars : List Char) : List Char := chars.filter fun c => c ≠ ':' ∧ c ≠ ' '

theorem not_isAlphanumeric_of_isWord {word : String} (letters : IsWord word) :
    ∀ c ∈ word.toList, (!isAlphanumeric c) = false := by
  intro c member
  rw [letters c member]
  rfl

theorem runs_word {word : String} (letters : IsWord word) :
    runs word.toList = [word.toList].filter (· ≠ []) := by
  rw [runs, List.splitOnP_eq_singleton (not_isAlphanumeric_of_isWord letters)]

theorem runs_append_cons {word : String} (letters : IsWord word) {c : Char}
    (stops : isAlphanumeric c = false) (rest : List Char) :
    runs (word.toList ++ c :: rest) = [word.toList].filter (· ≠ []) ++ runs rest := by
  rw [runs, List.splitOnP_append_cons_of_forall_mem (not_isAlphanumeric_of_isWord letters) c
    (by rw [stops]; rfl), ← List.singleton_append, List.filter_append, runs]

theorem runs_spaces (count : Nat) (rest : List Char) :
    runs ((spaces count).toList ++ rest) = runs rest := by
  rw [spaces, String.toList_ofList]
  induction count with
  | zero => rfl
  | succ count ih =>
    have first := @runs_append_cons "" (by decide) ' ' isAlphanumeric_space
      (List.replicate count ' ' ++ rest)
    rw [List.replicate_succ, List.cons_append]
    exact first.trans ih

theorem filter_singleton_of_ne {word : String} (filled : word ≠ "") :
    [word.toList].filter (· ≠ []) = [word.toList] :=
  List.filter_cons_of_pos (by simpa using filled)

theorem SpacedWords.runs_eq {words : List String} {text : String} (written : SpacedWords words text)
    (filled : ∀ word ∈ words, word ≠ "" ∧ IsWord word) :
    runs text.toList = words.map String.toList := by
  induction written with
  | none count =>
    have blank := runs_spaces count []
    rw [List.append_nil] at blank
    exact blank.trans (by decide)
  | last count word =>
    obtain ⟨present, letters⟩ := filled word List.mem_cons_self
    rw [String.toList_append, runs_spaces, runs_word letters, filter_singleton_of_ne present]
    rfl
  | @next count word words text later ih =>
    obtain ⟨present, letters⟩ := filled word List.mem_cons_self
    have others := ih fun other member => filled other (List.mem_cons_of_mem _ member)
    have chars : (spaces count ++ word ++ " " ++ text).toList =
        (spaces count).toList ++ (word.toList ++ ' ' :: text.toList) := by
      simp
    rw [chars, runs_spaces, runs_append_cons letters isAlphanumeric_space,
      filter_singleton_of_ne present, others]
    rfl

theorem DeclaredBy.runs_eq {d : Declaration} {line : String} (declared : d.DeclaredBy line) :
    runs line.toList = ((d.name :: d.dependencies).map String.toList).filter (· ≠ []) := by
  obtain ⟨letters, filled, text, spaced, rfl⟩ := declared
  have chars : (d.name ++ ":" ++ text).toList = d.name.toList ++ ':' :: text.toList := by simp
  have kept : (d.dependencies.map String.toList).filter (· ≠ []) =
      d.dependencies.map String.toList := by
    rw [List.filter_eq_self]
    intro word member
    obtain ⟨dependency, member', rfl⟩ := List.mem_map.mp member
    simpa using (filled dependency member').1
  have parts : (d.name :: d.dependencies).map String.toList =
      [d.name.toList] ++ d.dependencies.map String.toList := rfl
  rw [chars, runs_append_cons letters isAlphanumeric_colon, spaced.runs_eq filled, parts,
    List.filter_append, kept]

theorem withoutMarks_append (first second : List Char) :
    withoutMarks (first ++ second) = withoutMarks first ++ withoutMarks second :=
  List.filter_append ..

theorem withoutMarks_spaces (count : Nat) : withoutMarks (spaces count).toList = [] := by
  rw [withoutMarks, spaces, String.toList_ofList, List.filter_eq_nil_iff]
  intro c member
  simp [List.eq_of_mem_replicate member]

theorem withoutMarks_word {word : String} (letters : IsWord word) :
    withoutMarks word.toList = word.toList := by
  rw [withoutMarks, List.filter_eq_self]
  intro c member
  refine decide_eq_true ⟨?_, ?_⟩
  · rintro rfl
    exact absurd (letters _ member) (by decide)
  · rintro rfl
    exact absurd (letters _ member) (by decide)

theorem SpacedWords.withoutMarks_eq {words : List String} {text : String}
    (written : SpacedWords words text) (letters : ∀ word ∈ words, IsWord word) :
    withoutMarks text.toList = words.flatMap String.toList := by
  induction written with
  | none count => exact withoutMarks_spaces count
  | last count word =>
    rw [String.toList_append, withoutMarks_append, withoutMarks_spaces,
      withoutMarks_word (letters word List.mem_cons_self), List.flatMap_singleton]
    rfl
  | @next count word words text later ih =>
    have others := ih fun other member => letters other (List.mem_cons_of_mem _ member)
    have chars : (spaces count ++ word ++ " " ++ text).toList =
        (spaces count).toList ++ (word.toList ++ ((spaces 1).toList ++ text.toList)) := by
      simp [spaces]
    rw [chars, withoutMarks_append, withoutMarks_spaces, withoutMarks_append,
      withoutMarks_word (letters word List.mem_cons_self), withoutMarks_append,
      withoutMarks_spaces, others]
    rfl

theorem DeclaredBy.withoutMarks_eq {d : Declaration} {line : String} (declared : d.DeclaredBy line) :
    withoutMarks line.toList = (d.name :: d.dependencies).flatMap String.toList := by
  obtain ⟨letters, filled, text, spaced, rfl⟩ := declared
  rw [String.toList_append, String.toList_append, withoutMarks_append, withoutMarks_append,
    withoutMarks_word letters, spaced.withoutMarks_eq fun word member => (filled word member).2,
    show withoutMarks ":".toList = [] by decide, List.append_nil]
  rfl

/-- A line is read as a task if and only if it declares that task, which is one task at most. The
words of the task are the longest runs of letters and digits of the line, in their order, and besides
them the line holds nothing but colons and spaces. -/
theorem parse_exact (line : String) :
    (∀ d, parse line = .ok d ↔ d.DeclaredBy line) ∧
      (∀ d other : Declaration, d.DeclaredBy line → other.DeclaredBy line → d = other) ∧
      ∀ d : Declaration, d.DeclaredBy line →
        runs line.toList = ((d.name :: d.dependencies).map String.toList).filter (· ≠ []) ∧
        withoutMarks line.toList = (d.name :: d.dependencies).flatMap String.toList := by
  refine ⟨fun d => parse_eq_ok_iff, fun d other declared declared' => ?_, fun d declared => ?_⟩
  · have parsed := parse_eq_ok_iff.mpr declared
    exact Except.ok.inj (parsed.symm.trans (parse_eq_ok_iff.mpr declared'))
  · exact ⟨declared.runs_eq, declared.withoutMarks_eq⟩

example : parse "all:a   b  c   " = .ok ⟨"all", ["a", "b", "c"]⟩ := by decide

end TaskRunner.Declaration
