import TaskRunner.Proofs.Build.Stages

/-! A store is a list. It keeps its entries in a map and the order of the names beside it, and each
question is put to one of the two. Whatever was inserted and replaced before, it answers like a list
of tasks with distinct names that grows at its end. So a file that was scanned has a first task. -/

namespace TaskRunner
open Source Build

namespace Store

inductive Request where
  | insert (d : Declaration)
  | setActions (name : String) (actions : List String)
  | get (name : String)
  | contains (name : String)
  | actions (name : String)
  | size
  | isEmpty
  | firstDeclared
  deriving DecidableEq, Repr

inductive Answer where
  | inserted (refused : Option Declaration)
  | entry (found : Option TaskEntry)
  | actions (listed : List String)
  | size (count : Nat)
  | name (first : Option String)
  | told (yes : Bool)
  deriving DecidableEq, Repr

def answer (store : Store) : Request → Answer × Store
  | .insert d =>
    match store.insert d with
    | .ok after => (.inserted none, after)
    | .error refused => (.inserted (some refused), store)
  | .setActions name actions =>
    (.told (store.setActions name actions).1, (store.setActions name actions).2)
  | .get name => (.entry (store.get? name), store)
  | .contains name => (.told (store.contains name), store)
  | .actions name => (.actions (store.actions name), store)
  | .size => (.size store.size, store)
  | .isEmpty => (.told store.isEmpty, store)
  | .firstDeclared => (.name store.firstDeclared, store)

end Store

/-- The answers to these requests in turn, and what has become of the one who gives them. -/
def answersInTurn {α : Type} (answer : α → Store.Request → Store.Answer × α) :
    α → List Store.Request → List Store.Answer × α
  | state, [] => ([], state)
  | state, request :: requests =>
    let (first, after) := answer state request
    let (later, last) := answersInTurn answer after requests
    (first :: later, last)

/-- Tasks in the order of their declarations, no two of one name. -/
structure Roster where
  tasks : List Task
  distinct : (tasks.map (·.name)).Nodup

namespace Roster

variable {r : Roster}

def empty : Roster := ⟨[], .nil⟩

def names (r : Roster) : List String := r.tasks.map (·.name)

def find? (r : Roster) (name : String) : Option Task := r.tasks.find? (·.name == name)

def append (r : Roster) (task : Task) (fresh : task.name ∉ r.names) : Roster where
  tasks := r.tasks ++ [task]
  distinct := by
    rw [List.map_append, List.map_singleton, ← List.concat_eq_append, List.nodup_concat]
    exact ⟨fresh, r.distinct⟩

def actFor (name : String) (actions : List String) (task : Task) : Task :=
  if task.name = name then { task with actions } else task

theorem name_actFor (name : String) (actions : List String) (task : Task) :
    (actFor name actions task).name = task.name := by
  unfold actFor
  split <;> rfl

theorem names_actFor (tasks : List Task) (name : String) (actions : List String) :
    (tasks.map (actFor name actions)).map (·.name) = tasks.map (·.name) := by
  rw [List.map_map]
  exact List.map_congr_left fun task _ => name_actFor name actions task

def setActions (r : Roster) (name : String) (actions : List String) : Roster where
  tasks := r.tasks.map (actFor name actions)
  distinct := (names_actFor r.tasks name actions).symm ▸ r.distinct

def answer (r : Roster) : Store.Request → Store.Answer × Roster
  | .insert d =>
    if fresh : d.name ∉ r.names then (.inserted none, r.append ⟨d.name, d.dependencies, []⟩ fresh)
    else (.inserted (some d), r)
  | .setActions name actions =>
    if name ∈ r.names then (.told true, r.setActions name actions) else (.told false, r)
  | .get name => (.entry ((r.find? name).map fun task => ⟨task.dependencies, task.actions⟩), r)
  | .contains name => (.told (name ∈ r.names), r)
  | .actions name => (.actions ((r.find? name).elim [] (·.actions)), r)
  | .size => (.size r.tasks.length, r)
  | .isEmpty => (.told r.tasks.isEmpty, r)
  | .firstDeclared => (.name r.names.head?, r)

theorem answer_fresh {d : Declaration} (fresh : d.name ∉ r.names) :
    r.answer (.insert d) = (.inserted none, r.append ⟨d.name, d.dependencies, []⟩ fresh) :=
  dif_pos fresh

theorem answer_taken {d : Declaration} (taken : d.name ∈ r.names) :
    r.answer (.insert d) = (.inserted (some d), r) := dif_neg (not_not_intro taken)

theorem isSome_find?_iff {name : String} : (r.find? name).isSome = true ↔ name ∈ r.names := by
  rw [find?, List.find?_isSome, names, List.mem_map]
  simp only [beq_iff_eq]

theorem find?_append {task : Task} (fresh : task.name ∉ r.names) (name : String) :
    (r.append task fresh).find? name = if task.name = name then some task else r.find? name := by
  rw [find?, append, List.find?_append, ← find?]
  by_cases same : task.name = name
  · have absent : r.find? name = none := by
      rw [← Option.not_isSome_iff_eq_none, isSome_find?_iff]
      exact same ▸ fresh
    rw [absent, if_pos same, List.find?_cons_of_pos (by simpa using same)]
    rfl
  · rw [if_neg same, List.find?_cons_of_neg (by simpa using same)]
    exact Option.or_none

theorem find?_setActions (r : Roster) (name : String) (actions : List String) (other : String) :
    (r.setActions name actions).find? other =
      if name = other then (r.find? name).map ({ · with actions }) else r.find? other := by
  have updated : (r.setActions name actions).find? other =
      (r.find? other).map (actFor name actions) := by
    rw [find?, setActions, List.find?_map, find?]
    congr 2
    funext task
    rw [Function.comp_apply, name_actFor]
  rw [updated]
  cases found : r.find? other with
  | none =>
    split
    next same => rw [same, found]; rfl
    next => rfl
  | some task =>
    have named : task.name = other := eq_of_beq (List.find?_eq_some_iff_append.mp found).1
    by_cases same : name = other
    · subst same
      rw [if_pos rfl, found, Option.map_some, Option.map_some, actFor, if_pos named]
    · rw [if_neg same, Option.map_some, actFor, if_neg]
      exact fun equal => same (equal.symm.trans named)

end Roster

namespace Store

variable {store after : Store} {r : Roster}

/-- The store holds these tasks, in this order and no others. -/
structure Lists (store : Store) (r : Roster) : Prop where
  names_eq : store.names = r.names
  get?_eq : ∀ name, store.get? name =
    (r.find? name).map fun task => ⟨task.dependencies, task.actions⟩
  size_eq : store.size = r.tasks.length

theorem answer_inserted {d : Declaration} (inserted : store.insert d = .ok after) :
    store.answer (.insert d) = (.inserted none, after) := by
  simp only [answer, inserted]

theorem answer_refused {d : Declaration} (known : store.contains d.name = true) :
    store.answer (.insert d) = (.inserted (some d), store) := by
  simp only [answer, insert, if_pos known]

theorem exists_inserted {d : Declaration} (unknown : ¬ store.contains d.name = true) :
    ∃ after, store.insert d = .ok after := ⟨_, if_neg unknown⟩

theorem firstDeclared_eq (store : Store) : store.firstDeclared = store.names.head? := by
  rw [names, List.head?_eq_getElem?, Array.getElem?_toList]
  rfl

theorem size_insert {d : Declaration} (inserted : store.insert d = .ok after) :
    after.size = store.size + 1 := by
  unfold insert at inserted
  split at inserted
  next => cases inserted
  next absent =>
    cases inserted
    exact Std.ExtTreeMap.size_insert.trans (if_neg absent)

theorem size_setActions (store : Store) (name : String) (actions : List String) :
    (store.setActions name actions).2.size = store.size := by
  unfold setActions
  split
  next found =>
    have known : store.contains name = true := by
      rw [contains_eq, found]
      rfl
    exact Std.ExtTreeMap.size_insert.trans (if_pos known)
  next => rfl

theorem setActions_known (store : Store) (name : String) (actions : List String) :
    (store.setActions name actions).1 = store.contains name := by
  rw [contains_eq, setActions]
  cases store.get? name <;> rfl

theorem setActions_of_unknown {name : String} (unknown : store.contains name = false)
    (actions : List String) : (store.setActions name actions).2 = store := by
  rw [contains_eq, Option.isSome_eq_false_iff, Option.isNone_iff_eq_none] at unknown
  rw [setActions, unknown]

namespace Lists

theorem empty : Store.empty.Lists .empty := ⟨rfl, fun _ => Std.ExtTreeMap.getElem?_empty, rfl⟩

theorem contains_iff (lists : store.Lists r) {name : String} :
    store.contains name = true ↔ name ∈ r.names := by
  rw [store.contains_eq, lists.get?_eq, Option.isSome_map, Roster.isSome_find?_iff]

theorem isEmpty_eq (lists : store.Lists r) : store.isEmpty = r.tasks.isEmpty := by
  rw [Bool.eq_iff_iff, List.isEmpty_iff_length_eq_zero, ← lists.size_eq, Store.isEmpty,
    Std.ExtTreeMap.isEmpty_eq_size_beq_zero, beq_iff_eq]
  rfl

theorem insert (lists : store.Lists r) {d : Declaration} (fresh : d.name ∉ r.names)
    (inserted : store.insert d = .ok after) :
    after.Lists (r.append ⟨d.name, d.dependencies, []⟩ fresh) where
  names_eq := by
    rw [names_of_insert inserted, lists.names_eq, Roster.names, Roster.names, Roster.append,
      List.map_append]
    rfl
  get?_eq name := by
    rw [Store.get?_insert inserted, lists.get?_eq, Roster.find?_append]
    split <;> rfl
  size_eq := by
    rw [Store.size_insert inserted, lists.size_eq, Roster.append, List.length_append]
    rfl

theorem setActions (lists : store.Lists r) (name : String) (actions : List String) :
    (store.setActions name actions).2.Lists (r.setActions name actions) where
  names_eq := by
    rw [store.names_setActions, lists.names_eq]
    exact (Roster.names_actFor r.tasks name actions).symm
  get?_eq other := by
    rw [store.get?_setActions, lists.get?_eq, lists.get?_eq, Roster.find?_setActions]
    split
    · rw [Option.map_map, Option.map_map]
      rfl
    · rfl
  size_eq := by
    rw [store.size_setActions, lists.size_eq, Roster.setActions, List.length_map]

theorem answer_insert (lists : store.Lists r) (d : Declaration) :
    (store.answer (.insert d)).1 = (r.answer (.insert d)).1 ∧
      (store.answer (.insert d)).2.Lists (r.answer (.insert d)).2 := by
  by_cases known : store.contains d.name = true
  · rw [store.answer_refused known, Roster.answer_taken (lists.contains_iff.mp known)]
    exact ⟨rfl, lists⟩
  · obtain ⟨after, inserted⟩ := Store.exists_inserted known
    have fresh : d.name ∉ r.names := fun member => known (lists.contains_iff.mpr member)
    rw [store.answer_inserted inserted, Roster.answer_fresh fresh]
    exact ⟨rfl, lists.insert fresh inserted⟩

theorem answer_setActions (lists : store.Lists r) (name : String) (actions : List String) :
    (store.answer (.setActions name actions)).1 = (r.answer (.setActions name actions)).1 ∧
      (store.answer (.setActions name actions)).2.Lists
        (r.answer (.setActions name actions)).2 := by
  unfold Store.answer Roster.answer
  by_cases member : name ∈ r.names
  · have known := lists.contains_iff.mpr member
    simp only [if_pos member, store.setActions_known, known]
    exact ⟨trivial, lists.setActions name actions⟩
  · have unknown : store.contains name = false :=
      Bool.eq_false_iff.mpr fun known => member (lists.contains_iff.mp known)
    simp only [if_neg member, store.setActions_known, unknown, Store.setActions_of_unknown unknown]
    exact ⟨trivial, lists⟩

theorem answer (lists : store.Lists r) (request : Store.Request) :
    (store.answer request).1 = (r.answer request).1 ∧
      (store.answer request).2.Lists (r.answer request).2 := by
  cases request with
  | insert d => exact lists.answer_insert d
  | setActions name actions => exact lists.answer_setActions name actions
  | get name => exact ⟨congrArg Store.Answer.entry (lists.get?_eq name), lists⟩
  | contains name =>
    refine ⟨congrArg Store.Answer.told ?_, lists⟩
    rw [Bool.eq_iff_iff, decide_eq_true_iff]
    exact lists.contains_iff
  | actions name =>
    refine ⟨congrArg Store.Answer.actions ?_, lists⟩
    rw [Store.actions, lists.get?_eq]
    cases r.find? name <;> rfl
  | size => exact ⟨congrArg Store.Answer.size lists.size_eq, lists⟩
  | isEmpty => exact ⟨congrArg Store.Answer.told lists.isEmpty_eq, lists⟩
  | firstDeclared =>
    refine ⟨congrArg Store.Answer.name ?_, lists⟩
    rw [store.firstDeclared_eq, lists.names_eq]

theorem answersInTurn (lists : store.Lists r) (requests : List Store.Request) :
    (answersInTurn Store.answer store requests).1 = (answersInTurn Roster.answer r requests).1 ∧
      (answersInTurn Store.answer store requests).2.Lists
        (answersInTurn Roster.answer r requests).2 := by
  induction requests generalizing store r with
  | nil => exact ⟨rfl, lists⟩
  | cons request requests ih =>
    obtain ⟨same, after⟩ := lists.answer request
    obtain ⟨later, last⟩ := ih after
    exact ⟨congrArg₂ List.cons same later, last⟩

theorem distinct (lists : store.Lists r) : store.names.Nodup := lists.names_eq ▸ r.distinct

theorem firstDeclared_eq_none_iff (lists : store.Lists r) :
    store.firstDeclared = none ↔ store.isEmpty = true := by
  rw [store.firstDeclared_eq, lists.names_eq, lists.isEmpty_eq, List.head?_eq_none_iff,
    Roster.names, List.map_eq_nil_iff, List.isEmpty_iff]

end Lists

theorem names_answer (store : Store) (request : Store.Request) :
    store.names <+: (store.answer request).2.names := by
  cases request with
  | insert d =>
    by_cases known : store.contains d.name = true
    · rw [store.answer_refused known]
    · obtain ⟨after, inserted⟩ := exists_inserted known
      rw [store.answer_inserted inserted]
      exact ⟨_, (names_of_insert inserted).symm⟩
  | setActions name actions =>
    show store.names <+: (store.setActions name actions).2.names
    rw [store.names_setActions]
  | _ => exact List.prefix_refl _

theorem names_answersInTurn (store : Store) (requests : List Store.Request) :
    store.names <+: (answersInTurn answer store requests).2.names := by
  induction requests generalizing store with
  | nil => exact List.prefix_refl _
  | cons request requests ih => exact (store.names_answer request).trans (ih _)

theorem firstDeclared_answersInTurn {first : String} (declared : store.firstDeclared = some first)
    (requests : List Store.Request) :
    (answersInTurn answer store requests).2.firstDeclared = some first := by
  obtain ⟨others, names⟩ := store.names_answersInTurn requests
  rw [firstDeclared_eq] at declared
  rw [firstDeclared_eq, ← names, List.head?_append, declared]
  rfl

end Store

theorem exists_requests_of_addDeclarations {path : String} {c : Cursor} {store final : Store}
    (added : addDeclarations path c store = .ok final) :
    ∃ requests, (answersInTurn Store.answer store requests).2 = final := by
  fun_induction addDeclarations path c store with
  | case1 c store e after read => cases added
  | case2 c store after read =>
    cases added
    exact ⟨[], rfl⟩
  | case3 c store d head read taken refused => cases added
  | case4 c store d head read middle inserted e after block => cases added
  | case5 c store d head read middle inserted _ rest block ih =>
    obtain ⟨requests, later⟩ := ih added
    refine ⟨.insert d :: requests, ?_⟩
    rw [answersInTurn, store.answer_inserted inserted]
    exact later

/-- What is true of a store that answers like a roster. -/
structure Store.Ordered (store : Store) : Prop where
  distinct : store.names.Nodup
  contains_iff : ∀ name, store.contains name = true ↔ name ∈ store.names
  size_eq : store.size = store.names.length
  first_iff : store.firstDeclared = none ↔ store.isEmpty = true
  first_stays : ∀ first, store.firstDeclared = some first → ∀ requests,
    (answersInTurn Store.answer store requests).2.firstDeclared = some first

theorem Store.Lists.ordered {store : Store} {r : Roster} (lists : store.Lists r) :
    store.Ordered where
  distinct := lists.distinct
  contains_iff name := by rw [lists.contains_iff, lists.names_eq]
  size_eq := by rw [lists.size_eq, lists.names_eq, Roster.names, List.length_map]
  first_iff := lists.firstDeclared_eq_none_iff
  first_stays _ := Store.firstDeclared_answersInTurn

theorem ordered_answersInTurn (requests : List Store.Request) :
    (answersInTurn Store.answer .empty requests).2.Ordered :=
  (Store.Lists.empty.answersInTurn requests).2.ordered

theorem exists_firstDeclared_of_scan {path : String} {bytes : Bytes} {store : Store}
    (scanned : scan path (.ofBytes bytes) = .ok store) :
    ∃ first, store.firstDeclared = some first := by
  unfold scan at scanned
  split at scanned
  next final added =>
    split at scanned
    next => cases scanned
    next filled =>
      cases scanned
      obtain ⟨requests, same⟩ := exists_requests_of_addDeclarations added
      have ordered := ordered_answersInTurn requests
      rw [same] at ordered
      exact Option.ne_none_iff_exists'.mp fun unset => filled (ordered.first_iff.mp unset)
  next => cases scanned

/-- A store that begins empty answers any requests like a roster, and is in order behind them: the
names in its map are those in its order, where none stands twice, and there is a first one, which
stays, unless it is empty. So once a file was scanned, there is a task to be satisfied. -/
theorem answersInTurn_eq_roster (requests : List Store.Request) (request : BuildRequest)
    (bytes : Bytes) :
    let ended := answersInTurn Store.answer .empty requests
    let expected := answersInTurn Roster.answer .empty requests
    ended.1 = expected.1 ∧ ended.2.Lists expected.2 ∧ ended.2.Ordered ∧
      ∀ store, scan request.path (.ofBytes bytes) = .ok store →
        ∃ root, readTasks request (.ok bytes) = .ok (store, root) ∧
          request.target.or store.firstDeclared = some root := by
  intro ended expected
  obtain ⟨same, lists⟩ := Store.Lists.empty.answersInTurn requests
  refine ⟨same, lists, lists.ordered, fun store scanned => ?_⟩
  obtain ⟨first, declared⟩ := exists_firstDeclared_of_scan scanned
  obtain ⟨root, requested⟩ : ∃ root, request.target.or store.firstDeclared = some root := by
    rw [declared]
    cases request.target with
    | none => exact ⟨first, rfl⟩
    | some target => exact ⟨target, rfl⟩
  refine ⟨root, readTasks_of_scan scanned ?_, requested⟩
  rwa [← firstDeclared_of_scan scanned]

def someRequests : List Store.Request :=
  [.firstDeclared, .insert ⟨"lib", []⟩, .setActions "tool" ["ld"], .insert ⟨"tool", ["lib"]⟩,
    .insert ⟨"lib", ["tool"]⟩, .setActions "lib" ["cc", "ar"], .get "lib", .actions "tool", .size,
    .firstDeclared]

theorem answersInTurn_eq_roster_library :
    (answersInTurn Store.answer .empty someRequests).1 =
      [.name none, .inserted none, .told false, .inserted none, .inserted (some ⟨"lib", ["tool"]⟩),
        .told true, .entry (some ⟨[], ["cc", "ar"]⟩), .actions [], .size 2, .name (some "lib")] ∧
      (answersInTurn Store.answer .empty someRequests).2.Ordered ∧
      ∃ store, scan "tasks" (.ofBytes (.ofString "\nlib:\n\tcc\n")) = .ok store ∧
        readTasks { path := "tasks" } (.ok (.ofString "\nlib:\n\tcc\n")) = .ok (store, "lib") := by
  obtain ⟨same, _, ordered, reads⟩ := answersInTurn_eq_roster someRequests { path := "tasks" }
    (.ofString "\nlib:\n\tcc\n")
  refine ⟨same.trans (by decide), ordered, ?_⟩
  have seen : (scan "tasks" (.ofBytes (.ofString "\nlib:\n\tcc\n"))).map Store.firstDeclared =
      .ok (some "lib") := by decide +kernel
  cases scanned : scan "tasks" (.ofBytes (.ofString "\nlib:\n\tcc\n")) with
  | error e =>
    rw [scanned] at seen
    cases seen
  | ok store =>
    rw [scanned] at seen
    obtain ⟨root, read, requested⟩ := reads store scanned
    cases requested.symm.trans (Except.ok.inj seen)
    exact ⟨store, rfl, read⟩

end TaskRunner
