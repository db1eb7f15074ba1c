import TaskRunner.Proofs.Declaration.Writing
import TaskRunner.Proofs.Graph.Edges
import TaskRunner.Proofs.Source.Encoding
import TaskRunner.Proofs.Source.Passes

/-! Writing tasks down as a file. The relations below leave open whatever a writer is free in: the
spaces in a declaration, the indentation of each action, blank lines anywhere and the way each line
ends. Both readings of such a file find the tasks that were written. -/

namespace TaskRunner.Source
open Declaration (IsWord WrittenAs)

/-- An action that stands on a line of its own and is read back from there. -/
structure WritableAction (action : String) : Prop where
  present : isBlankLine action = false
  unindented : isActionLine action = false
  single : '\n' ∉ action.toList
  kept : action.toList.getLast? ≠ some '\r'

structure Task.Writable (task : Task) : Prop where
  named : IsWord task.name
  words : ∀ word ∈ task.dependencies, word ≠ "" ∧ IsWord word
  actions : ∀ action ∈ task.actions, WritableAction action

instance (action : String) : Decidable (WritableAction action) :=
  decidable_of_iff (isBlankLine action = false ∧ isActionLine action = false ∧
      '\n' ∉ action.toList ∧ action.toList.getLast? ≠ some '\r')
    ⟨fun ⟨present, unindented, single, kept⟩ => ⟨present, unindented, single, kept⟩,
      fun ⟨present, unindented, single, kept⟩ => ⟨present, unindented, single, kept⟩⟩

instance (task : Task) : Decidable task.Writable :=
  decidable_of_iff (IsWord task.name ∧ (∀ word ∈ task.dependencies, word ≠ "" ∧ IsWord word) ∧
      ∀ action ∈ task.actions, WritableAction action)
    ⟨fun ⟨named, words, actions⟩ => ⟨named, words, actions⟩,
      fun ⟨named, words, actions⟩ => ⟨named, words, actions⟩⟩

/-- Lines that go on with these actions of a task under way, and then with these tasks. -/
inductive Written : List String → List Task → List String → Prop
  | nil : Written [] [] []
  | blank {actions : List String} {tasks : List Task} {line : String} {rest : List String}
      (empty : isBlankLine line = true) (single : '\n' ∉ line.toList)
      (later : Written actions tasks rest) : Written actions tasks (line :: rest)
  | action {actions : List String} {tasks : List Task} {indent action : String}
      {rest : List String} (some : indent ≠ "") (narrow : ∀ c ∈ indent.toList, isIndent c = true)
      (later : Written actions tasks rest) :
      Written (action :: actions) tasks ((indent ++ action) :: rest)
  | task {tasks : List Task} {task : Task} {line : String} {rest : List String}
      (declares : WrittenAs ⟨task.name, task.dependencies⟩ line)
      (later : Written task.actions tasks rest) : Written [] (task :: tasks) (line :: rest)

/-- A text of these lines. The last one may lack its end. -/
inductive TextOf : List String → String → Prop
  | nil : TextOf [] ""
  | last (line : String) : TextOf [line] line
  | next (line : String) (e : LineEnd) {rest : List String} {text : String}
      (later : TextOf rest text) : TextOf (line :: rest) (line ++ e.text ++ text)

variable {path line text : String} {rest : List String}

theorem TextOf.lines_of_kept (written : TextOf (line :: rest) text) (present : line ≠ "")
    (single : '\n' ∉ line.toList) (kept : line.toList.getLast? ≠ some '\r') :
    ∃ behind, TextOf rest behind ∧
      lines (Bytes.ofString text) = .ok line :: lines (Bytes.ofString behind) := by
  cases written with
  | last =>
    refine ⟨"", .nil, ?_⟩
    rw [lines_last present single]
    exact congrArg (Except.ok line :: ·) lines_nil.symm
  | next line e later =>
    refine ⟨_, later, ?_⟩
    rw [lines_lineEnd e single, e.read_of_getLast? kept]

theorem isBlankLine_chomp (empty : isBlankLine line = true) : isBlankLine (chomp line) = true := by
  unfold chomp
  split
  next =>
    rw [isBlankLine, String.toList_ofList]
    rw [isBlankLine, List.all_eq_true] at empty
    exact List.all_eq_true.mpr fun c member => empty c ((List.dropLast_sublist _).subset member)
  next => exact empty

theorem TextOf.lines_of_blank (written : TextOf (line :: rest) text)
    (empty : isBlankLine line = true) (single : '\n' ∉ line.toList) :
    ∃ behind, TextOf rest behind ∧
      (lines (Bytes.ofString text) = lines (Bytes.ofString behind) ∨
        ∃ blank, isBlankLine blank = true ∧
          lines (Bytes.ofString text) = .ok blank :: lines (Bytes.ofString behind)) := by
  cases written with
  | last =>
    refine ⟨"", .nil, ?_⟩
    by_cases nothing : line = ""
    · exact .inl (by rw [nothing])
    · refine .inr ⟨line, empty, ?_⟩
      rw [lines_last nothing single]
      exact congrArg (Except.ok line :: ·) lines_nil.symm
  | next line e later =>
    refine ⟨_, later, .inr ⟨e.read line, ?_, lines_lineEnd e single _⟩⟩
    cases e with
    | feed => exact isBlankLine_chomp empty
    | returnFeed => exact empty

section Action
variable {indent action : String} (some : indent ≠ "")
  (narrow : ∀ c ∈ indent.toList, isIndent c = true) (writable : WritableAction action)

include writable in
theorem WritableAction.ne_nil : action.toList ≠ [] := by
  intro empty
  have blank := writable.present
  rw [isBlankLine, empty] at blank
  cases blank

include narrow writable in
theorem WritableAction.single_indented : '\n' ∉ (indent ++ action).toList := by
  rw [String.toList_append, List.mem_append]
  rintro (early | late)
  · exact absurd (narrow _ early) (by decide)
  · exact writable.single late

include writable in
theorem WritableAction.kept_indented : (indent ++ action).toList.getLast? ≠ Option.some '\r' := by
  rw [String.toList_append, List.getLast?_append, List.getLast?_eq_some_getLast writable.ne_nil,
    Option.some_or, ← List.getLast?_eq_some_getLast writable.ne_nil]
  exact writable.kept

include some narrow in
theorem inBlock_indented : inBlock (indent ++ action) = true := by
  have filled : indent.toList ≠ [] := fun empty => some (String.toList_eq_nil_iff.mp empty)
  obtain ⟨first, others, split⟩ := List.exists_cons_of_ne_nil filled
  have indented : isActionLine (indent ++ action) = true := by
    rw [isActionLine, String.toList_append, split]
    exact narrow first (split ▸ List.mem_cons_self)
  rw [inBlock_eq, indented, Bool.or_true]

include narrow writable in
theorem WritableAction.actionsIn_indented : actionsIn [indent ++ action] = [action] := by
  have present : isBlankLine (indent ++ action) = false := by
    have blank := writable.present
    rw [isBlankLine] at blank ⊢
    rw [String.toList_append, List.all_append, blank, Bool.and_false]
  have stripped : actionText (indent ++ action) = action := by
    have head := writable.unindented
    obtain ⟨first, others, split⟩ := List.exists_cons_of_ne_nil writable.ne_nil
    rw [isActionLine, split] at head
    rw [actionText, String.toList_append, List.dropWhile_append_of_pos narrow, split,
      List.dropWhile_cons_of_neg (by simpa using head), ← split, String.ofList_toList]
  rw [actionsIn_eq, List.filter_cons_of_pos (by simp [present]), List.filter_nil, List.map_singleton,
    stripped]

end Action

theorem Task.Writable.parse {task : Task} (writable : task.Writable)
    (declares : WrittenAs ⟨task.name, task.dependencies⟩ line) :
    Declaration.parse line = .ok ⟨task.name, task.dependencies⟩ :=
  Declaration.parse_of_writtenAs declares writable.named writable.words

theorem Task.Writable.line_kept {task : Task} (writable : task.Writable)
    (declares : WrittenAs ⟨task.name, task.dependencies⟩ line) :
    line ≠ "" ∧ '\n' ∉ line.toList ∧ line.toList.getLast? ≠ some '\r' := by
  have chars := declares.mem_chars writable.named fun word member => (writable.words word member).2
  refine ⟨?_, fun feed => ?_, fun ends => ?_⟩
  · rintro rfl
    have parsed := writable.parse declares
    cases parsed
  · exact absurd (chars _ feed) (by decide)
  · exact absurd (chars _ (List.mem_of_getLast? ends)) (by decide)

theorem Written.splitBlock {actions : List String} {tasks : List Task} {written : List String}
    (lays : Written actions tasks written) (texts : TextOf written text)
    (writable : ∀ task ∈ tasks, task.Writable) (plain : ∀ action ∈ actions, WritableAction action) :
    actionsIn (splitBlock (lines (Bytes.ofString text))).1 = actions ∧
      Layout (splitBlock (lines (Bytes.ofString text))).2 tasks := by
  induction lays generalizing text with
  | nil =>
    cases texts
    rw [show lines (Bytes.ofString "") = [] from lines_nil]
    exact ⟨rfl, .nil⟩
  | @blank actions tasks line rest empty single later ih =>
    obtain ⟨behind, texts', same | ⟨blank, empty', read⟩⟩ := texts.lines_of_blank empty single
    · rw [same]
      exact ih texts' writable plain
    · have inside : inBlock blank = true := by rw [inBlock_eq, empty', Bool.true_or]
      rw [read, Source.splitBlock, if_pos inside, actionsIn_cons,
        show actionsIn [blank] = [] by simp [actionsIn_eq, empty'], List.nil_append]
      exact ih texts' writable plain
  | @action actions tasks indent action rest some narrow later ih =>
    have first := plain action List.mem_cons_self
    have present : indent ++ action ≠ "" := fun empty => first.ne_nil
      (List.append_eq_nil_iff.mp ((String.toList_append).symm.trans (congrArg _ empty))).2
    obtain ⟨behind, texts', read⟩ := texts.lines_of_kept present (first.single_indented narrow)
      first.kept_indented
    have others := ih texts' writable fun other member => plain other (List.mem_cons_of_mem _ member)
    rw [read, Source.splitBlock, if_pos (inBlock_indented some narrow), actionsIn_cons,
      first.actionsIn_indented narrow, others.1]
    exact ⟨rfl, others.2⟩
  | @task tasks task line rest declares later ih =>
    have first := writable task List.mem_cons_self
    obtain ⟨present, single, kept⟩ := first.line_kept declares
    obtain ⟨behind, texts', read⟩ := texts.lines_of_kept present single kept
    obtain ⟨block, layout⟩ := ih texts'
      (fun other member => writable other (List.mem_cons_of_mem _ member)) first.actions
    have parsed := first.parse declares
    rw [read, Source.splitBlock, if_neg (not_inBlock_of_parse parsed)]
    have laid := Layout.task parsed layout
    rw [block] at laid
    exact ⟨rfl, laid⟩

theorem Layout.of_splitBlock {pending : List Line} {found : List Task}
    (silent : actionsIn (Source.splitBlock pending).1 = [])
    (later : Layout (Source.splitBlock pending).2 found) : Layout pending found := by
  fun_induction Source.splitBlock pending with
  | case1 line rest inside ih =>
    rw [actionsIn_cons, List.append_eq_nil_iff] at silent
    have empty : isBlankLine line = true := by
      by_contra present
      simp [actionsIn_eq, present] at silent
    exact .blank empty (ih silent.2 later)
  | case2 line rest outside => exact later
  | case3 pending other => exact later

theorem Written.layout {tasks : List Task} {written : List String} (lays : Written [] tasks written)
    (texts : TextOf written text) (writable : ∀ task ∈ tasks, task.Writable) :
    Layout (lines (Bytes.ofString text)) tasks := by
  obtain ⟨silent, later⟩ := lays.splitBlock texts writable fun _ member => nomatch member
  exact .of_splitBlock silent later

theorem Layout.addDeclarations {c : Cursor} {found : List Task} (layout : Layout c.reader.pending found)
    (distinct : (found.map (·.name)).Nodup) {store : Store}
    (fresh : ∀ task ∈ found, store.contains task.name = false) (path : String) :
    ∃ final, Source.addDeclarations path c store = .ok final := by
  fun_induction Source.addDeclarations path c store generalizing found with
  | case1 c store e after read =>
    rcases layout.nextDeclaration path with ⟨_, _, ended⟩ | ⟨_, _, _, next, _⟩
    · cases read.symm.trans ended
    · cases read.symm.trans next
  | case2 c store after read => exact ⟨store, rfl⟩
  | case3 c store d head read taken refused =>
    obtain ⟨others, _, rfl⟩ := layout.of_nextDeclaration read
    have absent := fresh _ List.mem_cons_self
    rw [Store.insert, if_neg (Bool.eq_false_iff.mp absent)] at refused
    cases refused
  | case4 c store d head read middle inserted e after block =>
    obtain ⟨others, later, rfl⟩ := layout.of_nextDeclaration read
    obtain ⟨_, taken⟩ := later.takeActionBlock false
    cases block.symm.trans taken
  | case5 c store d head read middle inserted _ rest block ih =>
    obtain ⟨others, later, rfl⟩ := layout.of_nextDeclaration read
    rw [List.map_cons, List.nodup_cons] at distinct
    refine ih ((takeActionBlock_ok block).1 ▸ later) distinct.2 fun task member => ?_
    have apart : d.name ≠ task.name := fun same =>
      distinct.1 (List.mem_map.mpr ⟨task, member, same.symm⟩)
    rw [middle.contains_eq, Store.get?_insert inserted, if_neg apart, ← store.contains_eq]
    exact fresh task (List.mem_cons_of_mem _ member)

theorem Layout.scan {bytes : Bytes} {tasks : List Task} (layout : Layout (lines bytes) tasks)
    (some : tasks ≠ []) (distinct : (tasks.map (·.name)).Nodup) (path : String) :
    ∃ store, Source.scan path (.ofBytes bytes) = .ok store := by
  have fresh : ∀ task ∈ tasks, Store.empty.contains task.name = false :=
    fun _ _ => Std.ExtTreeMap.contains_empty
  obtain ⟨store, added⟩ := Layout.addDeclarations (c := .ofBytes bytes) layout distinct fresh path
  refine ⟨store, ?_⟩
  obtain ⟨found, layout', declares⟩ := addDeclarations_ok added
  obtain rfl : tasks = found := layout.tasks_eq.symm.trans layout'.tasks_eq
  obtain ⟨task, others, rfl⟩ := List.exists_cons_of_ne_nil some
  have known : store.contains task.name = true := by
    rw [store.contains_eq, declares.get?_eq, List.find?_cons_of_pos (by simp)]
    simp
  rw [Source.scan, added]
  simp [Store.isEmpty_of_contains known]

theorem find?_of_nodup_names {tasks : List Task} (distinct : (tasks.map (·.name)).Nodup)
    {task : Task} (member : task ∈ tasks) :
    tasks.find? (·.name == task.name) = Option.some task := by
  induction tasks with
  | nil => nomatch member
  | cons first others ih =>
    rw [List.map_cons, List.nodup_cons] at distinct
    rcases List.mem_cons.mp member with rfl | later
    · exact List.find?_cons_of_pos (beq_self_eq_true _)
    · have apart : first.name ≠ task.name := fun same =>
        distinct.1 (List.mem_map.mpr ⟨task, later, same.symm⟩)
      rw [List.find?_cons_of_neg (by simpa using apart)]
      exact ih distinct.2 later

/-- Tasks that were written down are read back. A scan finds their names and dependencies in order,
and the second reading gives every task that a declared root reaches its actions. -/
theorem scan_of_written {tasks : List Task} {written : List String} (some : tasks ≠ [])
    (writable : ∀ task ∈ tasks, task.Writable) (distinct : (tasks.map (·.name)).Nodup)
    (lays : Written [] tasks written) (texts : TextOf written text) (path : String) :
    ∃ store, scan path (.ofBytes (.ofString text)) = .ok store ∧
      store.names = tasks.map (·.name) ∧
      (∀ task ∈ tasks, store.get? task.name = Option.some { dependencies := task.dependencies }) ∧
      ∀ root, (∀ name, store.dependencyMap.Reaches root name → store.contains name = true) →
        ∃ g count loaded, Graph.build root store = .ok g ∧
          attachActions path g (.ofBytes (.ofString text)) store = (.ok count, loaded) ∧
          ∀ task ∈ tasks, store.dependencyMap.Reaches root task.name →
            loaded.actions task.name = task.actions := by
  have layout := lays.layout texts writable
  obtain ⟨store, scanned⟩ := layout.scan some distinct path
  have read : tasksOf (.ofString text) = tasks := layout.tasks_eq
  have known : ∀ task ∈ tasks, task? (.ofString text) task.name = Option.some task := by
    intro task member
    rw [task?, read]
    exact find?_of_nodup_names distinct member
  refine ⟨store, scanned, ?_, fun task member => ?_, fun root declared => ?_⟩
  · exact read ▸ (scan_ok scanned).2.names
  · rw [get?_of_scan scanned, known task member]
    rfl
  · cases built : Graph.build root store with
    | error e =>
      obtain ⟨name, _, reached, undeclared⟩ := Graph.build_error built
      cases (declared name reached).symm.trans undeclared
    | ok g =>
      obtain ⟨count, loaded, attached, found⟩ := attachActions_of_scan scanned path g
      refine ⟨g, count, loaded, rfl, attached, fun task member reached => ?_⟩
      have inside := (Graph.closure_of_build built).contains_iff.mpr reached
      rw [found _ inside, actions, known task member]

def looseTasks : List Task :=
  [⟨"all", ["lib", "docs", "lib"], ["echo done "]⟩, ⟨"lib", [], ["cc lib", "ar\t lib"]⟩,
    ⟨"docs", ["lib"], []⟩]

def looseLines : List String :=
  ["\x0b", "all:  lib docs   lib ", "", " \t " ++ "echo done ", "\t\t", "lib:", "\t" ++ "cc lib",
    "   ", " " ++ "ar\t lib", "docs: lib"]

def looseText : String :=
  "\x0b\r\nall:  lib docs   lib \r\n\n \t echo done \r\n\t\t\nlib:\n\tcc lib\n   \n ar\t lib\r\n" ++
    "docs: lib"

theorem written_loose : Written [] looseTasks looseLines := by
  have all : WrittenAs ⟨"all", ["lib", "docs", "lib"]⟩ "all:  lib docs   lib " :=
    ⟨_, .next 2 "lib" (.next 0 "docs" (.next 2 "lib" (.none 0))), by decide +kernel⟩
  have lib : WrittenAs ⟨"lib", []⟩ "lib:" := ⟨_, .none 0, by decide +kernel⟩
  have docs : WrittenAs ⟨"docs", ["lib"]⟩ "docs: lib" := ⟨_, .last 1 "lib", by decide +kernel⟩
  have narrow {indent : String} (spaced : indent.toList.all isIndent = true) :
      ∀ c ∈ indent.toList, isIndent c = true := List.all_eq_true.mp spaced
  refine .blank (by decide +kernel) (by decide +kernel) (.task all ?_)
  refine .blank (by decide +kernel) (by decide +kernel)
    (.action (by decide +kernel) (narrow (by decide +kernel)) ?_)
  refine .blank (by decide +kernel) (by decide +kernel) (.task lib ?_)
  refine .action (by decide +kernel) (narrow (by decide +kernel))
    (.blank (by decide +kernel) (by decide +kernel) ?_)
  exact .action (by decide +kernel) (narrow (by decide +kernel)) (.task docs .nil)

theorem textOf_loose : TextOf looseLines looseText := by
  have texts := TextOf.next "\x0b" .returnFeed (.next "all:  lib docs   lib " .returnFeed
    (.next "" .feed (.next (" \t " ++ "echo done ") .returnFeed (.next "\t\t" .feed
    (.next "lib:" .feed (.next ("\t" ++ "cc lib") .feed (.next "   " .feed
    (.next (" " ++ "ar\t lib") .returnFeed (.last "docs: lib")))))))))
  refine (congrArg (TextOf looseLines) ?_).mpr texts
  decide +kernel

theorem scan_of_written_loose :
    looseTasks ≠ [] ∧ (∀ task ∈ looseTasks, task.Writable) ∧
      (looseTasks.map (·.name)).Nodup ∧ Written [] looseTasks looseLines ∧
      TextOf looseLines looseText ∧
      ∃ store, scan "tasks" (.ofBytes (.ofString looseText)) = .ok store ∧
        store.names = ["all", "lib", "docs"] ∧
        ∃ g count loaded, Graph.build "docs" store = .ok g ∧
          attachActions "tasks" g (.ofBytes (.ofString looseText)) store = (.ok count, loaded) ∧
          loaded.actions "lib" = ["cc lib", "ar\t lib"] := by
  have writable : ∀ task ∈ looseTasks, task.Writable := by decide +kernel
  have distinct : (looseTasks.map (·.name)).Nodup := by decide +kernel
  refine ⟨by decide, writable, distinct, written_loose, textOf_loose, ?_⟩
  obtain ⟨store, scanned, names, _, attaches⟩ := scan_of_written (by decide) writable distinct
    written_loose textOf_loose "tasks"
  refine ⟨store, scanned, names, ?_⟩
  have map_eq := dependencyMap_of_scan scanned
  have declared : ∀ name, store.dependencyMap.Reaches "docs" name →
      store.contains name = true := by
    intro name reached
    rw [map_eq] at reached
    have member : name ∈ ["docs", "lib"] := reached.mem_of_closed (by decide) (by decide +kernel)
    have known : ∀ name ∈ ["docs", "lib"], (task? (.ofString looseText) name).isSome = true := by
      decide +kernel
    rw [store.contains_eq, get?_of_scan scanned, Option.isSome_map]
    exact known name member
  obtain ⟨g, count, loaded, built, attached, found⟩ := attaches "docs" declared
  have listed : dependencies (.ofString looseText) "docs" = Option.some ["lib"] := by
    decide +kernel
  have reached : store.dependencyMap.Reaches "docs" "lib" := by
    rw [map_eq]
    exact (DependencyMap.Reaches.self _ _).step listed List.mem_cons_self
  have lib : (⟨"lib", [], ["cc lib", "ar\t lib"]⟩ : Task) ∈ looseTasks := by decide +kernel
  exact ⟨g, count, loaded, built, attached, found _ lib reached⟩

end TaskRunner.Source
