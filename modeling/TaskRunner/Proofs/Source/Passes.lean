import TaskRunner.Proofs.Source.Tasks

/-! The two readings of a task file. A scan that succeeds leaves the names and dependencies of the
tasks of the file in the store, and the second reading adds the actions of those that a graph
contains. -/

namespace TaskRunner.Source

variable {path : String} {c head after : Cursor} {found : List Task} {line : String}
  {d : Declaration}

theorem firstNonBlank_some {pending : List Line} {n : Nat} {after : Reader}
    (read : Reader.firstNonBlank pending n = (.ok (some line), after))
    (later : Layout (.ok line :: after.pending) found) : Layout pending found := by
  fun_induction Reader.firstNonBlank pending n with
  | case1 first rest n empty ih => exact .blank empty (ih read)
  | case2 first rest n present =>
    cases read
    exact later
  | case3 pending n other =>
    exact absurd (congrArg Reader.pending (Reader.nextLine_some read).1) (other _ _)

theorem firstNonBlank_none {pending : List Line} {n : Nat} {after : Reader}
    (read : Reader.firstNonBlank pending n = (.ok none, after)) : Layout pending [] := by
  fun_induction Reader.firstNonBlank pending n with
  | case1 first rest n empty ih => exact .blank empty (ih read)
  | case2 first rest n present => cases read
  | case3 pending n other =>
    obtain rfl : pending = [] := congrArg Reader.pending (Reader.nextLine_none read).1
    exact .nil

theorem Layout.firstNonBlank {pending : List Line} (layout : Layout pending found) (n : Nat) :
    (found = [] ∧ ∃ after, Reader.firstNonBlank pending n = (.ok none, after)) ∨
    ∃ line d after others, Reader.firstNonBlank pending n = (.ok (some line), after) ∧
      Declaration.parse line = .ok d ∧ Layout (splitBlock after.pending).2 others ∧
      found = ⟨d.name, d.dependencies, actionsIn (splitBlock after.pending).1⟩ :: others := by
  induction layout generalizing n with
  | nil => exact .inl ⟨rfl, _, rfl⟩
  | blank empty later ih =>
    rw [Reader.firstNonBlank, if_pos empty]
    exact ih (n + 1)
  | @task line d rest others parsed later ih =>
    have present : ¬ isBlankLine line := by
      intro empty
      exact not_inBlock_of_parse parsed (by simp [inBlock_eq, empty])
    rw [Reader.firstNonBlank, if_neg present]
    exact .inr ⟨line, d, _, others, rfl, parsed, later, rfl⟩

theorem nextDeclaration_none (read : nextDeclaration path c = (.ok none, after)) :
    Layout c.reader.pending [] := by
  unfold nextDeclaration at read
  split at read
  next => split at read <;> cases read
  next taken =>
    have reading := c.reader_nextNonBlank
    rw [taken] at reading
    exact firstNonBlank_none reading
  next => cases read

theorem nextDeclaration_some (read : nextDeclaration path c = (.ok (some d), head))
    (later : Layout (splitBlock head.reader.pending).2 found) :
    Layout c.reader.pending
      (⟨d.name, d.dependencies, actionsIn (splitBlock head.reader.pending).1⟩ :: found) := by
  unfold nextDeclaration at read
  split at read
  next line head' taken =>
    split at read
    next parsed =>
      cases read
      have reading := c.reader_nextNonBlank
      rw [taken] at reading
      exact firstNonBlank_some reading (.task parsed later)
    next => cases read
  next => cases read
  next => cases read

theorem Layout.nextDeclaration (layout : Layout c.reader.pending found) (path : String) :
    (found = [] ∧ ∃ after, nextDeclaration path c = (.ok none, after)) ∨
    ∃ d head others, nextDeclaration path c = (.ok (some d), head) ∧
      Layout (splitBlock head.reader.pending).2 others ∧
      found = ⟨d.name, d.dependencies, actionsIn (splitBlock head.reader.pending).1⟩ :: others := by
  have reading : Reader.firstNonBlank _ _ = _ := c.reader_nextNonBlank
  unfold Source.nextDeclaration
  rcases taken : c.nextNonBlank with ⟨answer, after⟩
  rw [taken] at reading
  rcases layout.firstNonBlank c.reader.lineNumber with
    ⟨rfl, _, ended⟩ | ⟨line, d, _, others, first, parsed, later, rfl⟩
  · obtain ⟨rfl, _⟩ := Prod.mk.inj (reading.symm.trans ended)
    exact .inl ⟨rfl, after, rfl⟩
  · obtain ⟨rfl, rfl⟩ := Prod.mk.inj (reading.symm.trans first)
    exact .inr ⟨d, after, others, by simp only [parsed], later, rfl⟩

theorem Layout.of_nextDeclaration (layout : Layout c.reader.pending found)
    (read : Source.nextDeclaration path c = (.ok (some d), head)) :
    ∃ others, Layout (splitBlock head.reader.pending).2 others ∧
      found = ⟨d.name, d.dependencies, actionsIn (splitBlock head.reader.pending).1⟩ :: others := by
  rcases layout.nextDeclaration path with ⟨_, _, ended⟩ | ⟨d', head', others, next, later, split⟩
  · cases read.symm.trans ended
  · cases read.symm.trans next
    exact ⟨others, later, split⟩

theorem takeActionBlock_ok {keep : Bool} {actions : List String}
    (read : head.takeActionBlock keep = (.ok actions, after)) :
    after.reader.pending = (splitBlock head.reader.pending).2 ∧
      actions = if keep then actionsIn (splitBlock head.reader.pending).1 else [] := by
  have reading : Reader.takeBlock _ _ _ = _ := head.reader_takeActionBlock keep
  rw [read] at reading
  unfold Reader.takeBlock at reading
  split at reading
  next => cases reading
  next block rest other cut =>
    obtain ⟨same, stands⟩ := Prod.mk.inj reading
    obtain rfl : _ = actions := Except.ok.inj same
    rw [← stands, cut]
    exact ⟨rfl, rfl⟩

theorem Layout.takeActionBlock (later : Layout (splitBlock head.reader.pending).2 found)
    (keep : Bool) : ∃ after, head.takeActionBlock keep =
      (.ok (if keep then actionsIn (splitBlock head.reader.pending).1 else []), after) := by
  have reading : Reader.takeBlock _ _ _ = _ := head.reader_takeActionBlock keep
  unfold Reader.takeBlock at reading
  split at reading
  next block e rest cut =>
    rw [cut] at later
    nomatch later
  next block rest other cut =>
    obtain ⟨same, _⟩ := Prod.mk.inj reading
    refine ⟨(head.takeActionBlock keep).2, Prod.ext ?_ rfl⟩
    rw [← same, cut]
    rfl

theorem get?_of_insert {before middle : Store} (inserted : before.insert d = .ok middle) :
    before.get? d.name = none := by
  unfold Store.insert at inserted
  split at inserted
  next => cases inserted
  next absent =>
    rw [before.contains_eq] at absent
    exact Option.not_isSome_iff_eq_none.mp absent

theorem names_of_insert {before middle : Store} (inserted : before.insert d = .ok middle) :
    middle.names = before.names ++ [d.name] := by
  unfold Store.insert at inserted
  split at inserted
  next => cases inserted
  next =>
    cases inserted
    exact Array.toList_push

/-- The declarations of tasks were added to a store, under names that it did not have. -/
structure Declares (before : Store) (found : List Task) (after : Store) : Prop where
  names : after.names = before.names ++ found.map (·.name)
  get?_eq : ∀ name, after.get? name = (before.get? name).or
    ((found.find? (·.name == name)).map fun task => { dependencies := task.dependencies })
  distinct : (found.map (·.name)).Nodup
  fresh : ∀ task ∈ found, before.get? task.name = none

theorem Declares.nil (store : Store) : Declares store [] store where
  names := (List.append_nil _).symm
  get?_eq _ := (Option.or_none).symm
  distinct := .nil
  fresh _ member := nomatch member

theorem Declares.cons {before middle after : Store} (inserted : before.insert d = .ok middle)
    (actions : List String) (declares : Declares middle found after) :
    Declares before (⟨d.name, d.dependencies, actions⟩ :: found) after := by
  obtain ⟨names, get?_eq, distinct, fresh⟩ := declares
  have added := Store.get?_insert inserted
  have absent := get?_of_insert inserted
  have apart : ∀ task ∈ found, d.name ≠ task.name := by
    intro task member same
    have free := fresh task member
    rw [added, if_pos same] at free
    cases free
  refine ⟨?_, fun name => ?_, ?_, fun task member => ?_⟩
  · rw [names, names_of_insert inserted, List.append_assoc]
    rfl
  · rw [get?_eq, added]
    by_cases same : d.name = name
    · rw [if_pos same, ← same, absent]
      simp
    · rw [if_neg same, List.find?_cons_of_neg (by simpa using same)]
  · refine List.nodup_cons.mpr ⟨fun member => ?_, distinct⟩
    obtain ⟨task, member', same⟩ := List.mem_map.mp member
    exact apart task member' same.symm
  · rcases List.mem_cons.mp member with rfl | later
    · exact absent
    · have free := fresh task later
      rwa [added, if_neg (apart task later)] at free

theorem addDeclarations_ok {store final : Store}
    (added : addDeclarations path c store = .ok final) :
    ∃ found, Layout c.reader.pending found ∧ Declares store found final := by
  fun_induction addDeclarations path c store with
  | case1 c store e after read => cases added
  | case2 c store after read =>
    cases added
    exact ⟨[], nextDeclaration_none read, .nil _⟩
  | case3 c store d head read taken refused => cases added
  | case4 c store d head read middle inserted e after block => cases added
  | case5 c store d head read middle inserted _ rest block ih =>
    obtain ⟨found, later, declares⟩ := ih added
    rw [(takeActionBlock_ok block).1] at later
    exact ⟨_, nextDeclaration_some read later, declares.cons inserted _⟩

theorem scan_ok {bytes : Bytes} {store : Store} (scanned : scan path (.ofBytes bytes) = .ok store) :
    Layout (lines bytes) (tasksOf bytes) ∧ Declares .empty (tasksOf bytes) store := by
  unfold scan at scanned
  split at scanned
  next final added =>
    split at scanned
    next => cases scanned
    next =>
      cases scanned
      obtain ⟨found, layout, declares⟩ := addDeclarations_ok added
      have same : tasksOf bytes = found := layout.tasks_eq
      rw [same]
      exact ⟨layout, declares⟩
  next => cases scanned

def attach (g : Graph) (store : Store) (task : Task) : Store :=
  if g.contains task.name then (store.setActions task.name task.actions).2 else store

theorem Layout.attachBlocks (layout : Layout c.reader.pending found) (path : String) (g : Graph)
    (store : Store) (count : Nat) :
    attachBlocks path g c store count =
      (.ok (count + found.countP (g.contains ·.name)), found.foldl (attach g) store) := by
  fun_induction Source.attachBlocks path g c store count generalizing found with
  | case1 c store count e after read =>
    rcases layout.nextDeclaration path with ⟨_, _, ended⟩ | ⟨_, _, _, next, _⟩
    · cases read.symm.trans ended
    · cases read.symm.trans next
  | case2 c store count after read =>
    rcases layout.nextDeclaration path with ⟨rfl, _⟩ | ⟨_, _, _, next, _⟩
    · rfl
    · cases read.symm.trans next
  | case3 c store count d head read e after block =>
    obtain ⟨others, later, rfl⟩ := layout.of_nextDeclaration read
    obtain ⟨_, taken⟩ := later.takeActionBlock (g.contains d.name)
    cases block.symm.trans taken
  | case4 c store count d head read actions rest block inside ih =>
    obtain ⟨others, later, rfl⟩ := layout.of_nextDeclaration read
    obtain ⟨stands, rfl⟩ := takeActionBlock_ok block
    rw [ih (stands ▸ later), List.countP_cons, List.foldl_cons, attach]
    simp only [inside, if_true, Nat.add_assoc, Nat.add_comm 1]
  | case5 c store count d head read actions rest block outside ih =>
    obtain ⟨others, later, rfl⟩ := layout.of_nextDeclaration read
    rw [ih ((takeActionBlock_ok block).1 ▸ later), List.countP_cons, List.foldl_cons, attach]
    simp [outside]

def loaded (task? : Option Task) (entry : TaskEntry) : TaskEntry :=
  match task? with
  | some task => { entry with actions := task.actions }
  | none => entry

theorem get?_foldl_attach {g : Graph} {name : String} (inside : g.contains name = true)
    (tasks : List Task) (store : Store) :
    (tasks.foldl (attach g) store).get? name =
      (store.get? name).map (loaded (tasks.filter (·.name == name)).getLast?) := by
  induction tasks generalizing store with
  | nil => exact Option.map_id'.symm
  | cons task tasks ih =>
    rw [List.foldl_cons, ih, List.filter_cons, attach]
    by_cases same : task.name = name
    · rw [if_pos (beq_iff_eq.mpr same), List.getLast?_cons, same, if_pos inside,
        Store.get?_setActions, if_pos rfl, Option.map_map]
      cases (tasks.filter (·.name == name)).getLast? <;> rfl
    · have skipped : ¬ (task.name == name) = true := by simpa using same
      rw [if_neg skipped]
      split
      next => rw [Store.get?_setActions, if_neg same]
      next => rfl

theorem getLast?_filter_of_nodup {tasks : List Task} (distinct : (tasks.map (·.name)).Nodup)
    (name : String) :
    (tasks.filter (·.name == name)).getLast? = tasks.find? (·.name == name) := by
  induction tasks with
  | nil => rfl
  | cons task tasks ih =>
    rw [List.map_cons, List.nodup_cons] at distinct
    by_cases same : task.name = name
    · have nothing : tasks.filter (·.name == name) = [] := by
        rw [List.filter_eq_nil_iff]
        intro other member equal
        rw [beq_iff_eq, ← same] at equal
        exact distinct.1 (equal ▸ List.mem_map_of_mem member)
      rw [List.filter_cons_of_pos (by simpa using same), nothing,
        List.find?_cons_of_pos (by simpa using same)]
      rfl
    · rw [List.filter_cons_of_neg (by simpa using same),
        List.find?_cons_of_neg (by simpa using same)]
      exact ih distinct.2

theorem get?_of_scan {bytes : Bytes} {store : Store}
    (scanned : scan path (.ofBytes bytes) = .ok store) (name : String) :
    store.get? name = (task? bytes name).map fun task => { dependencies := task.dependencies } := by
  rw [(scan_ok scanned).2.get?_eq]
  exact Option.none_or

theorem dependencyMap_of_scan {bytes : Bytes} {store : Store}
    (scanned : scan path (.ofBytes bytes) = .ok store) :
    store.dependencyMap = dependencies bytes := by
  funext name
  rw [Store.dependencyMap, get?_of_scan scanned, Option.map_map]
  rfl

theorem firstDeclared_of_scan {bytes : Bytes} {store : Store}
    (scanned : scan path (.ofBytes bytes) = .ok store) :
    store.firstDeclared = firstName? bytes := by
  have names : store.names = (tasksOf bytes).map (·.name) := (scan_ok scanned).2.names
  rw [firstName?, ← List.head?_map, ← names, Store.names, List.head?_eq_getElem?,
    Array.getElem?_toList]
  rfl

/-- The second reading of a scanned file succeeds, and gives the tasks of a graph the actions that
the file has for them. -/
theorem attachActions_of_scan {bytes : Bytes} {store : Store}
    (scanned : scan path (.ofBytes bytes) = .ok store) (path' : String) (g : Graph) :
    ∃ count loaded, attachActions path' g (.ofBytes bytes) store = (.ok count, loaded) ∧
      ∀ name, g.contains name → loaded.actions name = actions bytes name := by
  obtain ⟨layout, declares⟩ := scan_ok scanned
  refine ⟨_, _, Layout.attachBlocks (c := .ofBytes bytes) layout path' g store 0,
    fun name inside => ?_⟩
  rw [Store.actions, get?_foldl_attach inside, getLast?_filter_of_nodup declares.distinct,
    get?_of_scan scanned, actions, task?]
  cases (tasksOf bytes).find? (·.name == name) <;> rfl

end TaskRunner.Source
