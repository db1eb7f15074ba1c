import TaskRunner.Source.Actions
import TaskRunner.Proofs.Dependency
import TaskRunner.Proofs.Source.Reader

/-! What a task file says, apart from how it is read. Every line that parses declares a task, and
the run of blank and indented lines under it is its block. A scan accepts a file whose lines are
laid out as tasks with distinct names, and the second reading finds the same tasks again. -/

namespace TaskRunner.Source

structure Task where
  name : String
  dependencies : List String
  actions : List String
  deriving DecidableEq, Repr

def tasks : List String → List Task
  | [] => []
  | line :: rest =>
    match Declaration.parse line with
    | .ok d => ⟨d.name, d.dependencies, actionsIn (rest.takeWhile inBlock)⟩ :: tasks rest
    | .error _ => tasks rest

def texts (pending : List Line) : List String := pending.filterMap Except.toOption

def tasksOf (bytes : Bytes) : List Task := tasks (texts (lines bytes))

def task? (bytes : Bytes) (name : String) : Option Task :=
  (tasksOf bytes).find? (·.name == name)

def dependencies (bytes : Bytes) : DependencyMap :=
  fun name => (task? bytes name).map (·.dependencies)

/-- The actions of a task; a task that is not declared has none. -/
def actions (bytes : Bytes) (name : String) : List String :=
  match task? bytes name with
  | some task => task.actions
  | none => []

def firstName? (bytes : Bytes) : Option String := (tasksOf bytes).head?.map (·.name)

theorem exists_task_of_depends {bytes : Bytes} {name dependency : String}
    (depends : (dependencies bytes).Depends name dependency) :
    ∃ task ∈ tasksOf bytes, task.name = name ∧ dependency ∈ task.dependencies := by
  obtain ⟨listed, declared, member⟩ := depends
  obtain ⟨task, found, rfl⟩ := Option.map_eq_some_iff.mp declared
  exact ⟨task, List.mem_of_find?_eq_some found,
    eq_of_beq (List.find?_eq_some_iff_append.mp found).1, member⟩

/-- Lines that a scan can read: blank ones, and then declarations with their blocks. -/
inductive Layout : List Line → List Task → Prop
  | nil : Layout [] []
  | blank {line : String} {rest : List Line} {found : List Task} (empty : isBlankLine line)
      (later : Layout rest found) : Layout (.ok line :: rest) found
  | task {line : String} {d : Declaration} {rest : List Line} {found : List Task}
      (parsed : Declaration.parse line = .ok d) (later : Layout (splitBlock rest).2 found) :
      Layout (.ok line :: rest)
        (⟨d.name, d.dependencies, actionsIn (splitBlock rest).1⟩ :: found)

theorem colon_of_parse {line : String} {d : Declaration} (parsed : Declaration.parse line = .ok d) :
    ∃ rest, line.toList.dropWhile Text.isAlphanumeric = ':' :: rest := by
  unfold Declaration.parse at parsed
  cases read : Declaration.ofChars line.toList with
  | error e =>
    rw [read] at parsed
    cases parsed
  | ok d =>
    unfold Declaration.ofChars at read
    split at read
    next => cases read
    next c rest found =>
      split at read
      next same => exact ⟨rest, same ▸ found⟩
      next => cases read

theorem not_inBlock_of_parse {line : String} {d : Declaration}
    (parsed : Declaration.parse line = .ok d) : ¬ inBlock line := by
  obtain ⟨rest, found⟩ := colon_of_parse parsed
  intro inside
  rcases Bool.or_eq_true .. ▸ inside with blank | indented
  · have member : ':' ∈ line.toList :=
      (List.dropWhile_sublist _).subset (found ▸ List.mem_cons_self)
    exact absurd (List.all_eq_true.mp blank ':' member) (by decide)
  · cases shape : line.toList with
    | nil => simp [shape] at indented
    | cons first others =>
      have indent : first = ' ' ∨ first = '\t' := by
        simpa [shape] using indented
      rw [shape] at found
      rcases indent with rfl | rfl
      · rw [List.dropWhile_cons_of_neg (by decide)] at found
        cases found
      · rw [List.dropWhile_cons_of_neg (by decide)] at found
        cases found

theorem pending_splitBlock (pending : List Line) :
    pending = (splitBlock pending).1.map .ok ++ (splitBlock pending).2 := by
  fun_induction splitBlock pending with
  | case1 line rest inside ih => exact congrArg (Except.ok line :: ·) ih
  | case2 line rest outside => rfl
  | case3 pending other => rfl

theorem inBlock_splitBlock {pending : List Line} {line : String}
    (member : line ∈ (splitBlock pending).1) : inBlock line := by
  fun_induction splitBlock pending with
  | case1 first rest inside ih =>
    rcases List.mem_cons.mp member with rfl | later
    · exact inside
    · exact ih later
  | case2 first rest outside => nomatch member
  | case3 pending other => nomatch member

theorem splitBlock_ends {pending rest : List Line} {line : String}
    (ends : (splitBlock pending).2 = .ok line :: rest) : ¬ inBlock line := by
  fun_induction splitBlock pending with
  | case1 first rest' inside ih => exact ih ends
  | case2 first rest' outside =>
    cases ends
    exact outside
  | case3 pending other => exact absurd ends (other line rest)

theorem texts_splitBlock (pending : List Line) :
    texts pending = (splitBlock pending).1 ++ texts (splitBlock pending).2 := by
  have readable (block : List String) : texts (block.map .ok) = block := by
    rw [texts, List.filterMap_map]
    exact List.filterMap_some
  calc
    texts pending = texts ((splitBlock pending).1.map Except.ok ++ (splitBlock pending).2) :=
      congrArg texts (pending_splitBlock pending)
    _ = texts ((splitBlock pending).1.map Except.ok) ++ texts (splitBlock pending).2 :=
      List.filterMap_append
    _ = (splitBlock pending).1 ++ texts (splitBlock pending).2 := by rw [readable]

theorem tasks_cons_inBlock {line : String} (inside : inBlock line) (rest : List String) :
    tasks (line :: rest) = tasks rest := by
  rw [tasks]
  split
  next parsed => exact absurd inside (not_inBlock_of_parse parsed)
  next => rfl

theorem tasks_append_block {block : List String} (inside : ∀ line ∈ block, inBlock line)
    (rest : List String) : tasks (block ++ rest) = tasks rest := by
  induction block with
  | nil => rfl
  | cons line block ih =>
    rw [List.cons_append, tasks_cons_inBlock (inside line List.mem_cons_self)]
    exact ih fun other member => inside other (List.mem_cons_of_mem _ member)

theorem Layout.takeWhile_texts {rest : List Line} {found : List Task}
    (later : Layout (splitBlock rest).2 found) :
    (texts rest).takeWhile inBlock = (splitBlock rest).1 := by
  have ended : (texts (splitBlock rest).2).takeWhile inBlock = [] := by
    cases cut : (splitBlock rest).2 with
    | nil => rfl
    | cons line others =>
      cases line with
      | error e =>
        rw [cut] at later
        nomatch later
      | ok line => exact List.takeWhile_cons_of_neg (splitBlock_ends cut)
  rw [texts_splitBlock, List.takeWhile_append_of_pos fun _ => inBlock_splitBlock, ended,
    List.append_nil]

theorem Layout.tasks_eq {pending : List Line} {found : List Task} (layout : Layout pending found) :
    tasks (texts pending) = found := by
  induction layout with
  | nil => rfl
  | @blank line rest found empty later ih =>
    have inside : inBlock line := by simp [inBlock_eq, empty]
    exact (tasks_cons_inBlock inside _).trans ih
  | @task line d rest found parsed later ih =>
    show tasks (line :: texts rest) = _
    rw [tasks, parsed]
    simp only [later.takeWhile_texts]
    rw [texts_splitBlock, tasks_append_block (fun _ => inBlock_splitBlock), ih]

end TaskRunner.Source
