import TaskRunner.Action.Command
import TaskRunner.Proofs.Action.Words

/-! Commands written as actions. Behind the program stand the arguments, each behind a space and in
quotes, or without quotes where it has characters and no white space. A command that is written so
is read back, and every action reads as a command that can be written so again. -/

namespace TaskRunner

namespace Action
open Text

inductive Quoting (argument : String) : String → Prop
  | quoted : Quoting argument ("\"" ++ argument ++ "\"")
  | bare (filled : argument ≠ "") (dense : ∀ c ∈ argument.toList, isWhiteSpace c = false) :
      Quoting argument argument

inductive QuotedArguments : List String → String → Prop
  | nil : QuotedArguments [] ""
  | cons {argument text : String} {arguments : List String} {rest : String}
      (first : Quoting argument text) (later : QuotedArguments arguments rest) :
      QuotedArguments (argument :: arguments) (" " ++ text ++ rest)

def Separated (chars : List Char) : Prop := chars = [] ∨ ∃ rest, chars = ' ' :: rest

theorem readWords_space (word : Option (List Char)) (rest : List Char) :
    readWords false word (' ' :: rest) = closeWord word ++ readWords false none rest := by
  rw [readWords, if_neg (by decide), if_pos (by decide)]

theorem readWords_separated (word : List Char) {rest : List Char} (apart : Separated rest) :
    readWords false (some word) rest = closeWord (some word) ++ readWords false none rest := by
  rcases apart with rfl | ⟨rest, rfl⟩
  · rfl
  · rw [readWords_space, readWords_space]
    rfl

theorem readWords_append (quoted : Bool) {chars : List Char} (unquoted : '"' ∉ chars)
    (dense : quoted = true ∨ ∀ c ∈ chars, isWhiteSpace c = false) (word rest : List Char) :
    readWords quoted (some word) (chars ++ rest) =
      readWords quoted (some (chars.reverse ++ word)) rest := by
  induction chars generalizing word with
  | nil => rfl
  | cons c chars ih =>
    rw [List.mem_cons, not_or] at unquoted
    have inside : (isWhiteSpace c && !quoted) = false := by
      rcases dense with rfl | dense
      · exact Bool.and_false _
      · rw [dense c List.mem_cons_self, Bool.false_and]
    have later := ih unquoted.2
      (dense.imp_right fun blank other member => blank other (List.mem_cons_of_mem _ member))
      (c :: word)
    rw [List.cons_append, readWords, if_neg (Ne.symm unquoted.1), inside, if_neg Bool.false_ne_true,
      List.reverse_cons, List.append_assoc]
    exact later

theorem closeWord_reverse (argument : String) :
    closeWord (some argument.toList.reverse) = [argument] := by
  simp [closeWord]

theorem Quoting.readWords {argument text : String} (quoting : Quoting argument text)
    (unquoted : '"' ∉ argument.toList) {rest : List Char} (apart : Separated rest) :
    Action.readWords false none (text.toList ++ rest) =
      argument :: Action.readWords false none rest := by
  have closed := closeWord_reverse argument
  cases quoting with
  | quoted =>
    have chars : ("\"" ++ argument ++ "\"").toList ++ rest =
        '"' :: (argument.toList ++ '"' :: rest) := by simp
    have read := readWords_append true unquoted (.inl rfl) [] ('"' :: rest)
    rw [List.append_nil] at read
    calc
      _ = Action.readWords true (some []) (argument.toList ++ '"' :: rest) := by rw [chars]; rfl
      _ = Action.readWords true (some argument.toList.reverse) ('"' :: rest) := read
      _ = Action.readWords false (some argument.toList.reverse) rest := rfl
      _ = _ := by rw [readWords_separated _ apart, closed]; rfl
  | bare filled dense =>
    cases shape : argument.toList with
    | nil => exact absurd (String.toList_eq_nil_iff.mp shape) filled
    | cons c chars =>
      rw [shape] at unquoted dense closed
      rw [List.mem_cons, not_or] at unquoted
      rw [List.reverse_cons] at closed
      have read := readWords_append false unquoted.2
        (.inr fun other member => dense other (List.mem_cons_of_mem _ member)) [c] rest
      rw [List.cons_append, Action.readWords, if_neg (Ne.symm unquoted.1),
        dense c List.mem_cons_self, Bool.false_and, if_neg Bool.false_ne_true]
      show Action.readWords false (some [c]) _ = _
      rw [read, readWords_separated _ apart, closed]
      rfl

theorem QuotedArguments.separated {arguments : List String} {text : String}
    (written : QuotedArguments arguments text) : Separated text.toList := by
  cases written with
  | nil => exact .inl rfl
  | @cons argument text arguments rest first later =>
    exact .inr ⟨text.toList ++ rest.toList, by simp⟩

theorem QuotedArguments.splitArguments {arguments : List String} {text : String}
    (written : QuotedArguments arguments text)
    (unquoted : ∀ argument ∈ arguments, '"' ∉ argument.toList) :
    Action.splitArguments text = arguments := by
  unfold Action.splitArguments
  induction written with
  | nil => rfl
  | @cons argument text arguments rest first later ih =>
    have chars : (" " ++ text ++ rest).toList = ' ' :: (text.toList ++ rest.toList) := by simp
    have others := ih fun other member => unquoted other (List.mem_cons_of_mem _ member)
    rw [chars, readWords_space, first.readWords (unquoted argument List.mem_cons_self)
      later.separated, others]
    rfl

theorem exists_quotedArguments (arguments : List String) :
    ∃ text, QuotedArguments arguments text := by
  induction arguments with
  | nil => exact ⟨_, .nil⟩
  | cons argument arguments ih =>
    obtain ⟨rest, later⟩ := ih
    exact ⟨_, .cons .quoted later⟩

theorem splitProgram_append {program text : String} (single : ' ' ∉ program.toList)
    (apart : Separated text.toList) : splitProgram (program ++ text) = (program, text) := by
  have inside : ∀ c ∈ program.toList, decide (c ≠ ' ') = true :=
    fun c member => decide_eq_true fun space => single (space ▸ member)
  have ends : text.toList.takeWhile (· ≠ ' ') = [] ∧
      text.toList.dropWhile (· ≠ ' ') = text.toList := by
    rcases apart with empty | ⟨rest, cut⟩
    · rw [empty]
      exact ⟨rfl, rfl⟩
    · rw [cut]
      exact ⟨List.takeWhile_cons_of_neg (by decide), List.dropWhile_cons_of_neg (by decide)⟩
  unfold splitProgram
  rw [String.toList_append, List.takeWhile_append_of_pos inside, ends.1, List.append_nil,
    List.dropWhile_append_of_pos inside, ends.2, String.ofList_toList, String.ofList_toList]

theorem not_mem_splitProgram (action : String) : ' ' ∉ (splitProgram action).1.toList := by
  intro member
  rw [splitProgram, String.toList_ofList] at member
  exact absurd (List.all_eq_true.mp List.all_takeWhile ' ' member) (by decide)

end Action

namespace Command
open TaskRunner.Action

/-- The action is the program with the arguments behind it. -/
def WrittenAs (command : Command) (action : String) : Prop :=
  ∃ text, QuotedArguments command.arguments text ∧ action = command.program ++ text

/-- A command that an action can stand for. -/
structure Writable (command : Command) : Prop where
  single : ' ' ∉ command.program.toList
  unquoted : ∀ argument ∈ command.arguments, '"' ∉ argument.toList

theorem Writable.ofAction {command : Command} {action : String} (writable : command.Writable)
    (written : command.WrittenAs action) : ofAction .unix action = command := by
  obtain ⟨text, quoted, rfl⟩ := written
  simp only [Command.ofAction, splitProgram_append writable.single quoted.separated,
    quoted.splitArguments writable.unquoted]

theorem writable_ofAction (action : String) : (ofAction .unix action).Writable where
  single := not_mem_splitProgram action
  unquoted _ := quote_not_mem_splitArguments

theorem exists_writtenAs (command : Command) : ∃ action, command.WrittenAs action := by
  obtain ⟨text, quoted⟩ := exists_quotedArguments command.arguments
  exact ⟨_, text, quoted, rfl⟩

theorem shownWords_of_canLaunch {command : Command} (launchable : command.canLaunch = true) :
    command.shownWords = command.words := by
  have shown : ∀ word ∈ command.words,
      (if hasNul word then "<string-with-nul>" else word) = word := by
    intro word member
    have clean : hasNul word = false := by
      simpa using List.all_eq_true.mp launchable word member
    rw [clean, if_neg Bool.false_ne_true]
  exact (List.map_congr_left shown).trans (List.map_id' _)

theorem words_ofAction (action : String) :
    (ofAction .unix action).words =
      (splitProgram action).1 :: splitArguments (splitProgram action).2 := rfl

theorem mem_of_mem_words {action word : String} {c : Char}
    (member : word ∈ (ofAction .unix action).words) (inside : c ∈ word.toList) :
    c ∈ action.toList := by
  rw [words_ofAction] at member
  rcases List.mem_cons.mp member with rfl | argument
  · rw [splitProgram, String.toList_ofList] at inside
    exact (List.takeWhile_sublist _).subset inside
  · have raw := mem_of_mem_splitArguments argument inside
    rw [splitProgram, String.toList_ofList] at raw
    exact (List.dropWhile_sublist _).subset raw

theorem canLaunch_ofAction {action : String} (clean : hasNul action = false) :
    (ofAction .unix action).canLaunch = true := by
  rw [hasNul, List.contains_eq_mem, decide_eq_false_iff_not] at clean
  refine List.all_eq_true.mpr fun word member => ?_
  rw [hasNul, List.contains_eq_mem, Bool.not_eq_true', decide_eq_false_iff_not]
  exact fun inside => clean (mem_of_mem_words member inside)

/-- A command whose program has no space and whose arguments have no quotes is read back from every
action that it can be written as. Every action stands for such a command, which is written as some
action and read back from it. Where no word has a NUL, the words are shown as they are. -/
theorem ofAction_quoting :
    (∀ (command : Command) (action : String), command.Writable → command.WrittenAs action →
        ofAction .unix action = command ∧
          (command.canLaunch = true → (ofAction .unix action).shownWords = command.words)) ∧
      (∀ command : Command, ∃ action, command.WrittenAs action) ∧
      ∀ action : String, (ofAction .unix action).Writable ∧
        ∀ again, (ofAction .unix action).WrittenAs again →
          ofAction .unix again = ofAction .unix action ∧
            (hasNul action = false →
              (ofAction .unix again).shownWords = (ofAction .unix action).words) := by
  refine ⟨fun command action writable written => ?_, exists_writtenAs, fun action => ?_⟩
  · have same := writable.ofAction written
    refine ⟨same, fun launchable => ?_⟩
    rw [same]
    exact shownWords_of_canLaunch launchable
  · have writable := writable_ofAction action
    refine ⟨writable, fun again written => ?_⟩
    have same := writable.ofAction written
    refine ⟨same, fun clean => ?_⟩
    rw [same]
    exact shownWords_of_canLaunch (canLaunch_ofAction clean)

theorem ofAction_quoting_spaced :
    (⟨"cc", ["-o", "my app", ""]⟩ : Command).Writable ∧
      (⟨"cc", ["-o", "my app", ""]⟩ : Command).WrittenAs "cc -o \"my app\" \"\"" ∧
      ofAction .unix "cc -o \"my app\" \"\"" = ⟨"cc", ["-o", "my app", ""]⟩ := by
  have writable : (⟨"cc", ["-o", "my app", ""]⟩ : Command).Writable := ⟨by decide, by decide⟩
  have dense : ∀ c ∈ "-o".toList, Text.isWhiteSpace c = false := by
    intro c member
    have either : c = '-' ∨ c = 'o' := by simpa using member
    rcases either with rfl | rfl <;> decide
  have written : (⟨"cc", ["-o", "my app", ""]⟩ : Command).WrittenAs
      "cc -o \"my app\" \"\"" :=
    ⟨_, .cons (.bare (by decide) dense) (.cons .quoted (.cons .quoted .nil)), by decide⟩
  exact ⟨writable, written, (ofAction_quoting.1 _ _ writable written).1⟩

end Command
end TaskRunner
