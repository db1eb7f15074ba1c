import TaskRunner.Proofs.Action.Quoting
import TaskRunner.Proofs.Source.Decoding

/-! Every action that a reading leaves behind can be run. It is what stands behind the indentation
of a line, and the line is not blank. Three kinds of blank meet there: any white space makes a line
blank, a space or a tab indents it, and the space alone ends a program. Indentation is white space,
so a line that is not blank has something behind it. No space comes first there, so the program is
not empty. -/

namespace TaskRunner

namespace Action
open Text

/-- A text that names a program, as an action that stood on one line. -/
structure Runnable (action : String) : Prop where
  nonempty : action ≠ ""
  single : '\n' ∉ action.toList
  visible : ∃ c ∈ action.toList, isWhiteSpace c = false
  flush : ∀ c, action.toList.head? = some c → c ≠ ' ' ∧ c ≠ '\t'

theorem splitProgram_halves (action : String) :
    (splitProgram action).1 ++ (splitProgram action).2 = action := by
  rw [splitProgram, ← String.ofList_append, List.takeWhile_append_dropWhile, String.ofList_toList]

theorem Runnable.program_ne_empty {action : String} (runnable : Runnable action) :
    (splitProgram action).1 ≠ "" := by
  have filled : action.toList ≠ [] := fun empty =>
    runnable.nonempty (String.toList_eq_nil_iff.mp empty)
  obtain ⟨first, others, chars⟩ := List.exists_cons_of_ne_nil filled
  have noSpace : first ≠ ' ' := (runnable.flush first (by rw [chars, List.head?_cons])).1
  intro empty
  have nothing : action.toList.takeWhile (· ≠ ' ') = [] := String.ofList_eq_empty_iff.mp empty
  rw [chars, List.takeWhile_cons_of_pos (by simpa using noSpace)] at nothing
  cases nothing

end Action

namespace Command

theorem exists_shownProgram {command : Command} (named : command.program ≠ "")
    (single : ' ' ∉ command.program.toList) :
    ∃ shown, command.shownWords.head? = some shown ∧ shown ≠ "" ∧ ' ' ∉ shown.toList := by
  refine ⟨if hasNul command.program then "<string-with-nul>" else command.program, rfl, ?_⟩
  split
  next => decide
  next => exact ⟨named, single⟩

end Command

namespace Source
open Text

theorem lineFeed_not_mem_splitLine (bytes : Bytes) : lineFeed ∉ (splitLine bytes).1 := by
  have before : lineFeed ∉ bytes.takeWhile (· ≠ lineFeed) := fun member =>
    absurd (List.all_eq_true.mp List.all_takeWhile _ member) (by simp)
  unfold splitLine
  split
  next => exact before
  next =>
    unfold dropReturn
    split
    next => exact fun member => before ((List.dropLast_sublist _).subset member)
    next => exact before

theorem lineFeed_not_mem_of_mem_lines {bytes : Bytes} {line : String}
    (member : .ok line ∈ lines bytes) : '\n' ∉ line.toList := by
  fun_induction lines bytes with
  | case1 => cases member
  | case2 bytes unread ih =>
    rcases List.mem_cons.mp member with first | later
    · have clean := lineFeed_not_mem_splitLine bytes
      rwa [← decode_eq_ok.mp first.symm, lineFeed_mem_ofString_iff] at clean
    · exact ih later

theorem isWhiteSpace_of_isIndent {c : Char} (indent : isIndent c = true) :
    isWhiteSpace c = true := by
  rw [isIndent, Bool.or_eq_true, decide_eq_true_eq, decide_eq_true_eq] at indent
  rcases indent with rfl | rfl <;> decide

theorem runnable_actionText {line : String} (present : isBlankLine line = false)
    (single : '\n' ∉ line.toList) : Action.Runnable (actionText line) := by
  have chars : (actionText line).toList = line.toList.dropWhile isIndent := String.toList_ofList
  obtain ⟨c, member, visible⟩ : ∃ c ∈ line.toList, isWhiteSpace c = false := by
    simpa [isBlankLine] using present
  have kept : c ∈ line.toList.dropWhile isIndent := by
    rw [← List.takeWhile_append_dropWhile (p := isIndent) (l := line.toList)] at member
    refine (List.mem_append.mp member).resolve_left fun early => ?_
    have indent := List.all_eq_true.mp List.all_takeWhile c early
    cases visible.symm.trans (isWhiteSpace_of_isIndent indent)
  refine ⟨fun empty => ?_, ?_, ⟨c, chars ▸ kept, visible⟩, fun first head => ?_⟩
  · rw [← chars, empty] at kept
    cases kept
  · rw [chars]
    exact fun feed => single ((List.dropWhile_sublist _).subset feed)
  · rw [chars] at head
    have ends := List.head?_dropWhile_not isIndent line.toList
    rw [head] at ends
    simpa [isIndent] using ends

variable {path : String} {bytes : Bytes} {g : Graph} {store : Store} {pending : List Line}

/-- The action stands on one of these lines. -/
def StandsIn (action : String) (pending : List Line) : Prop :=
  ∃ line, .ok line ∈ pending ∧ isBlankLine line = false ∧ action = actionText line

theorem StandsIn.mono {action : String} {fewer more : List Line} (subset : fewer ⊆ more)
    (stands : StandsIn action fewer) : StandsIn action more := by
  obtain ⟨line, member, rest⟩ := stands
  exact ⟨line, subset member, rest⟩

theorem standsIn_of_mem_actionsIn {action : String} {block : List String}
    (member : action ∈ actionsIn block) : StandsIn action (block.map .ok) := by
  rw [actionsIn_eq] at member
  obtain ⟨line, kept, rfl⟩ := List.mem_map.mp member
  obtain ⟨inside, present⟩ := List.mem_filter.mp kept
  exact ⟨line, List.mem_map_of_mem inside, by simpa using present, rfl⟩

theorem block_subset_of_block? {block : List String} (found : block? pending = some block) :
    block.map .ok ⊆ pending := by
  have whole := pending_splitBlock pending
  unfold block? at found
  split at found
  next => cases found
  next cut =>
    cases found
    rw [cut] at whole
    rw [whole]
    exact List.subset_append_left _ _

theorem standsIn_of_declaredTask? {line : Line} {task : Task}
    (declared : declaredTask? line pending = some task) :
    ∀ action ∈ task.actions, StandsIn action pending := by
  unfold declaredTask? at declared
  split at declared
  next => cases declared
  next =>
    obtain ⟨block, found, rfl⟩ := Option.map_eq_some_iff.mp declared
    exact fun action member =>
      (standsIn_of_mem_actionsIn member).mono (block_subset_of_block? found)

theorem standsIn_of_mem_taken {before : List Line} {task : Task}
    (taken : task ∈ (rereadAfter path before pending).taken) :
    ∀ action ∈ task.actions, StandsIn action pending := by
  induction pending generalizing before with
  | nil => cases taken
  | cons line rest ih =>
    rw [rereadAfter] at taken
    split at taken
    next => cases taken
    next =>
      intro action member
      refine StandsIn.mono (List.subset_cons_self line rest) ?_
      rcases List.mem_append.mp taken with first | later
      · exact standsIn_of_declaredTask? (Option.mem_toList.mp first) action member
      · exact ih later action member

theorem Rereading.mem_actions_load {r : Rereading} {name action : String}
    (member : action ∈ (r.load g store).actions name) :
    action ∈ store.actions name ∨ ∃ task ∈ r.taken, action ∈ task.actions := by
  cases inside : g.contains name with
  | false =>
    rw [Store.actions, (attached_load r g store).outside name inside] at member
    exact .inl member
  | true =>
    cases declared : store.contains name with
    | false =>
      rw [Store.contains_eq, Option.isSome_eq_false_iff, Option.isNone_iff_eq_none] at declared
      rw [Store.actions, r.get?_load inside, declared] at member
      cases member
    | true =>
      rw [r.actions_load inside declared] at member
      split at member
      next task last =>
        exact .inr ⟨task, (List.mem_filter.mp (List.mem_of_getLast? last)).1, member⟩
      next => exact .inl member

/-- Into a store without actions, a second reading brings actions that can be run and no others,
however it ends. The program of each is not empty and has no space, also where a placeholder is
shown for it, and the two halves of the action are the whole of it. -/
theorem attachActions_runnable (fresh : ∀ name, store.actions name = []) (path : String)
    (bytes : Bytes) (g : Graph) (name : String) :
    ∀ action ∈ (attachActions path g (.ofBytes bytes) store).2.actions name,
      Action.Runnable action ∧
        (Command.ofAction .unix action).program ≠ "" ∧
        ' ' ∉ (Command.ofAction .unix action).program.toList ∧
        (∃ shown, (Command.ofAction .unix action).shownWords.head? = some shown ∧
          shown ≠ "" ∧ ' ' ∉ shown.toList) ∧
        (Action.splitProgram action).1 ++ (Action.splitProgram action).2 = action := by
  intro action member
  rw [attachActions_eq] at member
  have runnable : Action.Runnable action := by
    rcases Rereading.mem_actions_load member with old | ⟨task, taken, own⟩
    · rw [fresh] at old
      cases old
    · obtain ⟨line, read, present, rfl⟩ := standsIn_of_mem_taken taken action own
      exact runnable_actionText present (lineFeed_not_mem_of_mem_lines read)
  have named : (Command.ofAction .unix action).program ≠ "" := runnable.program_ne_empty
  have single : ' ' ∉ (Command.ofAction .unix action).program.toList :=
    Action.not_mem_splitProgram action
  exact ⟨runnable, named, single, Command.exists_shownProgram named single,
    Action.splitProgram_halves action⟩

def oddlyIndentedFile : Bytes :=
  .ofString "a:\n\u3000\n \t\u00a0 -v\r\r\n \u2003\t\n\t \tmake\tall\nb"

theorem attachActions_runnable_oddly_indented :
    ∃ store g e loaded, scan "tasks" (.ofBytes (.ofString "a:")) = .ok store ∧
      Graph.build "a" store = .ok g ∧
      attachActions "tasks" g (.ofBytes oddlyIndentedFile) store = (.error e, loaded) ∧
      loaded.actions "a" = ["\u00a0 -v\r", "make\tall"] ∧
      (Command.ofAction .unix "\u00a0 -v\r").program = "\u00a0" ∧
      (Command.ofAction .unix "make\tall").program = "make\tall" ∧
      Action.Runnable "\u00a0 -v\r" := by
  have seen : ((scan "tasks" (.ofBytes (.ofString "a:"))).toOption.bind fun store =>
      (Graph.build "a" store).toOption.map fun g =>
        ((attachActions "tasks" g (.ofBytes oddlyIndentedFile) store).1.toOption,
          (attachActions "tasks" g (.ofBytes oddlyIndentedFile) store).2.actions "a")) =
        some (none, ["\u00a0 -v\r", "make\tall"]) := by
    decide +kernel
  cases scanned : scan "tasks" (.ofBytes (.ofString "a:")) with
  | error e => simp [scanned, Except.toOption] at seen
  | ok store =>
    cases built : Graph.build "a" store with
    | error e => simp [scanned, built, Except.toOption] at seen
    | ok g =>
      have facts : (attachActions "tasks" g (.ofBytes oddlyIndentedFile) store).1.toOption = none ∧
          (attachActions "tasks" g (.ofBytes oddlyIndentedFile) store).2.actions "a" =
            ["\u00a0 -v\r", "make\tall"] := by
        simpa [scanned, built, Except.toOption] using seen
      obtain ⟨failed, left⟩ := facts
      have runnable := (attachActions_runnable (actions_of_scan scanned) "tasks" oddlyIndentedFile
        g "a" "\u00a0 -v\r" (left ▸ List.mem_cons_self)).1
      cases attached : attachActions "tasks" g (.ofBytes oddlyIndentedFile) store with
      | mk answer loaded =>
        rw [attached] at failed left
        cases answer with
        | ok count => cases failed
        | error e =>
          exact ⟨store, g, e, loaded, rfl, built, attached, left, by decide, by decide, runnable⟩

end Source
end TaskRunner
