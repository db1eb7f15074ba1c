import TaskRunner.Proofs.Source.Attachment
import TaskRunner.Proofs.Source.Defects

/-! The second reading of a file that may be another by now. It ends at the first line that is no
text, or that has to declare a task and does not; a name may be declared again. What it took until
then stays: every task of the graph has the last block that was taken for it, everything else is as
it was, and to read once more changes nothing. -/

namespace TaskRunner

theorem Store.ext_get? {first second : Store}
    (entries : ∀ name, first.get? name = second.get? name)
    (names : first.names = second.names) : first = second := by
  obtain ⟨entries₁, order₁⟩ := first
  obtain ⟨entries₂, order₂⟩ := second
  obtain rfl : entries₁ = entries₂ := Std.ExtTreeMap.ext_getElem? entries
  obtain rfl : order₁ = order₂ := Array.toList_inj.mp names
  rfl

namespace Source

/-- What a second reading comes to: the tasks whose blocks it takes, in turn, and the error that it
ends with, if it does. -/
structure Rereading where
  taken : List Task := []
  stop : Option ScanError := none

/-- The last task of this name whose block is taken. -/
def Rereading.last? (r : Rereading) (name : String) : Option Task :=
  (r.taken.filter (·.name == name)).getLast?

def stop? (path : String) (before : List Line) : Line → Option ScanError
  | .error e => some (.unreadable path e)
  | .ok line =>
    if startsTask before line then
      match Declaration.parse line with
      | .error e => some (.grammar { e with lineNumber := before.length + 1 })
      | .ok _ => none
    else none

/-- The block that these lines begin with, unless a line that is no text stands right behind it. -/
def block? (pending : List Line) : Option (List String) :=
  match splitBlock pending with
  | (_, .error _ :: _) => none
  | (block, _) => some block

def declaredTask? (line : Line) (rest : List Line) : Option Task :=
  match line.toOption.bind (Declaration.parse · |>.toOption) with
  | none => none
  | some d => (block? rest).map fun block => ⟨d.name, d.dependencies, actionsIn block⟩

def rereadAfter (path : String) (before : List Line) : List Line → Rereading
  | [] => {}
  | line :: rest =>
    match stop? path before line with
    | some e => { stop := some e }
    | none =>
      let later := rereadAfter path (before ++ [line]) rest
      { later with taken := (declaredTask? line rest).toList ++ later.taken }

def reread (path : String) (bytes : Bytes) : Rereading := rereadAfter path [] (lines bytes)

variable {path : String} {bytes : Bytes} {g : Graph} {before rest : List Line} {line : String}
  {d : Declaration}

theorem declaredTask?_declared (parsed : Declaration.parse line = .ok d) :
    declaredTask? (.ok line) rest =
      (block? rest).map fun block => ⟨d.name, d.dependencies, actionsIn block⟩ := by
  unfold declaredTask?
  simp only [Except.toOption, Option.bind_some, parsed]

theorem declaredTask?_inBlock (inside : inBlock line) : declaredTask? (.ok line) rest = none := by
  unfold declaredTask?
  cases parsed : Declaration.parse line with
  | error e => simp only [Except.toOption, Option.bind_some, parsed]
  | ok d => exact absurd inside (not_inBlock_of_parse parsed)

theorem rereadAfter_refused {e : GrammarError} (starts : startsTask before line = true)
    (refused : Declaration.parse line = .error e) :
    rereadAfter path before (.ok line :: rest) =
      { stop := some (.grammar { e with lineNumber := before.length + 1 }) } := by
  have stopped : stop? path before (.ok line) =
      some (.grammar { e with lineNumber := before.length + 1 }) := by
    rw [stop?, if_pos starts, refused]
  rw [rereadAfter, stopped]

theorem rereadAfter_declared (parsed : Declaration.parse line = .ok d) :
    rereadAfter path before (.ok line :: rest) =
      { rereadAfter path (before ++ [.ok line]) rest with
        taken := (declaredTask? (.ok line) rest).toList ++
          (rereadAfter path (before ++ [.ok line]) rest).taken } := by
  have onward : stop? path before (.ok line) = none := by
    rw [stop?, parsed]
    exact ite_self _
  rw [rereadAfter, onward]

/-- The line is passed over behind these others: it is blank, or it is indented and a task was
declared before. -/
def PassedOver (before : List Line) (line : String) : Prop :=
  isBlankLine line = true ∨ before.all isBlank = false ∧ inBlock line = true

theorem PassedOver.concat (passed : PassedOver before line) (other : Line) :
    PassedOver (before ++ [other]) line := by
  refine passed.imp_right fun ⟨begun, inside⟩ => ⟨?_, inside⟩
  rw [List.all_append, begun, Bool.false_and]

theorem PassedOver.inBlock (passed : PassedOver before line) : inBlock line = true := by
  rcases passed with blank | ⟨_, inside⟩
  · rw [Source.inBlock_eq, blank, Bool.true_or]
  · exact inside

theorem PassedOver.not_startsTask (passed : PassedOver before line) :
    startsTask before line = false := by
  unfold startsTask
  rcases passed with blank | ⟨begun, inside⟩
  · rw [blank, Bool.not_true, Bool.false_and]
  · rw [Source.inBlock_eq] at inside
    rw [begun, Bool.false_or, ← Bool.not_or, inside, Bool.not_true]

theorem rereadAfter_passedOver (passed : PassedOver before line) :
    rereadAfter path before (.ok line :: rest) =
      rereadAfter path (before ++ [.ok line]) rest := by
  have onward : stop? path before (.ok line) = none := by
    rw [stop?, passed.not_startsTask]
    rfl
  rw [rereadAfter, onward, declaredTask?_inBlock passed.inBlock]
  rfl

theorem rereadAfter_append {block : List String}
    (passed : ∀ line ∈ block, PassedOver before line) :
    rereadAfter path before (block.map .ok ++ rest) =
      rereadAfter path (before ++ block.map .ok) rest := by
  induction block generalizing before with
  | nil => rw [List.map_nil, List.append_nil, List.nil_append]
  | cons line block ih =>
    have later := @ih (before ++ [.ok line]) fun other member =>
      (passed other (List.mem_cons_of_mem _ member)).concat _
    rw [List.map_cons, List.cons_append, rereadAfter_passedOver (passed line List.mem_cons_self),
      later, List.append_assoc]
    rfl

theorem isBlank_of_not_inBlock {line : String} (outside : ¬ inBlock line) :
    isBlank (.ok line) = false := (Bool.or_eq_false_iff.mp (Bool.eq_false_iff.mpr outside)).1

theorem not_all_isBlank (before : List Line) (parsed : Declaration.parse line = .ok d) :
    (before ++ [(.ok line : Line)]).all isBlank = false := by
  have present := isBlank_of_not_inBlock (not_inBlock_of_parse parsed)
  rw [List.all_append, List.all_cons, present, Bool.false_and, Bool.and_false]

/-- The cursor stands behind these lines, where a declaration is looked for: no task was declared
yet, or no block goes on there. -/
structure Ready (before : List Line) (c : Cursor) : Prop where
  lineNumber_eq : c.lineNumber = before.length
  place : before.all isBlank = true ∨
    ∀ line rest, c.reader.pending = .ok line :: rest → ¬ inBlock line

theorem Ready.startsTask {c : Cursor} {blanks : List String} (ready : Ready before c)
    (split : c.reader.pending = blanks.map .ok ++ .ok line :: rest)
    (blank : ∀ line ∈ blanks, isBlankLine line = true) (present : isBlankLine line = false) :
    startsTask (before ++ blanks.map .ok) line = true := by
  have all_blank : (blanks.map Except.ok).all isBlank = true := by
    rw [List.all_map]
    exact List.all_eq_true.mpr blank
  rw [Source.startsTask, present, List.all_append, all_blank, Bool.and_true, Bool.not_false,
    Bool.true_and]
  rcases ready.place with first | outside
  · rw [first, Bool.true_or]
  · rw [split] at outside
    cases blanks with
    | nil =>
      have free : inBlock line = false := Bool.eq_false_iff.mpr (outside line rest rfl)
      rw [inBlock_eq, present, Bool.false_or] at free
      rw [free, Bool.not_false, Bool.or_true]
    | cons other blanks =>
      refine absurd ?_ (outside other _ rfl)
      rw [inBlock_eq, blank other List.mem_cons_self, Bool.true_or]

theorem Ready.nextDeclaration {c : Cursor} (ready : Ready before c) (path : String) :
    match nextDeclaration path c with
    | (.error e, _) => rereadAfter path before c.reader.pending = { stop := some e }
    | (.ok none, _) => rereadAfter path before c.reader.pending = {}
    | (.ok (some d), head) => ∃ passed line, Declaration.parse line = .ok d ∧
      head.lineNumber = (passed ++ [(.ok line : Line)]).length ∧
      rereadAfter path before c.reader.pending =
        rereadAfter path passed (.ok line :: head.reader.pending) := by
  obtain ⟨blanks, blank, ends⟩ := Reader.firstNonBlank_cases c.reader.pending c.lineNumber
  have passed : ∀ line ∈ blanks, PassedOver before line := fun line member =>
    .inl (blank line member)
  have number : c.lineNumber + blanks.length = (before ++ blanks.map Except.ok).length := by
    rw [List.length_append, List.length_map, ready.lineNumber_eq]
  have reading : Reader.firstNonBlank _ c.lineNumber = _ := c.reader_nextNonBlank
  unfold Source.nextDeclaration
  rcases taken : c.nextNonBlank with ⟨answer, after⟩
  rw [taken] at reading
  rcases ends with ⟨split, read⟩ | ⟨e, rest, split, read⟩ | ⟨line, rest, present, split, read⟩
  all_goals
    obtain ⟨rfl, stands⟩ := Prod.mk.inj (reading.symm.trans read)
  · rw [split, rereadAfter_append passed]
    rfl
  · rw [split, rereadAfter_append passed]
    rfl
  · have starts := ready.startsTask split blank present
    have pending : after.reader.pending = rest := congrArg Reader.pending stands
    have counted : after.lineNumber = c.lineNumber + blanks.length + 1 :=
      congrArg Reader.lineNumber stands
    rw [split, rereadAfter_append passed]
    cases parsed : Declaration.parse line with
    | ok d =>
      simp only [parsed]
      refine ⟨_, line, parsed, ?_, by rw [pending]⟩
      rw [counted, number]
      exact (@List.length_append _ _ [_]).symm
    | error e =>
      simp only [parsed]
      rw [rereadAfter_refused starts parsed, counted, number]
      rfl

theorem block?_torn {pending : List Line} {block : List String} {e : IoError}
    (cut : splitBlock pending = (block, .error e :: rest)) : block? pending = none := by
  rw [block?, cut]

theorem block?_whole {pending : List Line} {block : List String}
    (cut : splitBlock pending = (block, rest))
    (ends : ∀ e later, rest ≠ .error e :: later) : block? pending = some block := by
  rw [block?, cut]
  split
  next same => exact absurd (Prod.mk.inj same).2 (ends _ _)
  next same => rw [(Prod.mk.inj same).1]

theorem takeActionBlock_cases (path : String) (keep : Bool) (head : Cursor) (passed : List Line)
    (number : head.lineNumber = passed.length) (begun : passed.all isBlank = false) :
    (∃ e after, head.takeActionBlock keep = (.error e, after) ∧
      block? head.reader.pending = none ∧
      rereadAfter path passed head.reader.pending = { stop := some (.unreadable path e) }) ∨
    ∃ block after,
      head.takeActionBlock keep = (.ok (if keep then actionsIn block else []), after) ∧
      block? head.reader.pending = some block ∧
      rereadAfter path passed head.reader.pending =
        rereadAfter path (passed ++ block.map .ok) after.reader.pending ∧
      Ready (passed ++ block.map .ok) after := by
  have reading : Reader.takeBlock _ _ _ = _ := head.reader_takeActionBlock keep
  have whole := pending_splitBlock head.reader.pending
  have inside := @inBlock_splitBlock head.reader.pending
  have ends := @splitBlock_ends head.reader.pending
  unfold Reader.takeBlock at reading
  rcases taken : head.takeActionBlock keep with ⟨answer, after⟩
  rw [taken] at reading
  split at reading
  next block e rest cut =>
    obtain ⟨rfl, _⟩ := Prod.mk.inj reading
    rw [cut] at whole inside
    refine .inl ⟨e, after, rfl, block?_torn cut, ?_⟩
    rw [whole, rereadAfter_append fun line member => .inr ⟨begun, inside member⟩]
    rfl
  next block rest other cut =>
    obtain ⟨rfl, stands⟩ := Prod.mk.inj reading
    have pending : rest = after.reader.pending := congrArg Reader.pending stands
    have counted : head.lineNumber + block.length = after.lineNumber :=
      congrArg Reader.lineNumber stands
    rw [cut] at whole inside ends
    refine .inr ⟨block, after, rfl, block?_whole cut other, ?_, ?_, ?_⟩
    · rw [← pending, whole, rereadAfter_append fun line member => .inr ⟨begun, inside member⟩]
    · rw [← counted, number, List.length_append, List.length_map]
    · exact .inr fun line rest' same => ends (pending.trans same)

theorem Ready.torn {c head after : Cursor} {keep : Bool} {e : IoError} (ready : Ready before c)
    (read : Source.nextDeclaration path c = (.ok (some d), head))
    (failed : head.takeActionBlock keep = (.error e, after)) :
    rereadAfter path before c.reader.pending = { stop := some (.unreadable path e) } := by
  have next := ready.nextDeclaration path
  rw [read] at next
  obtain ⟨passed, line, parsed, number, found⟩ := next
  rcases takeActionBlock_cases path keep head _ number (not_all_isBlank passed parsed) with
    ⟨_, _, failed', torn, stopped⟩ | ⟨_, _, taken, _⟩
  · cases failed.symm.trans failed'
    rw [found, rereadAfter_declared parsed, declaredTask?_declared parsed, torn, stopped]
    rfl
  · cases failed.symm.trans taken

theorem Ready.taken {c head after : Cursor} {keep : Bool} {actions : List String}
    (ready : Ready before c) (read : Source.nextDeclaration path c = (.ok (some d), head))
    (taken : head.takeActionBlock keep = (.ok actions, after)) :
    ∃ passed whole, Ready passed after ∧ actions = (if keep then whole else []) ∧
      rereadAfter path before c.reader.pending =
        { rereadAfter path passed after.reader.pending with
          taken := ⟨d.name, d.dependencies, whole⟩ ::
            (rereadAfter path passed after.reader.pending).taken } := by
  have next := ready.nextDeclaration path
  rw [read] at next
  obtain ⟨passed, line, parsed, number, found⟩ := next
  rcases takeActionBlock_cases path keep head _ number (not_all_isBlank passed parsed) with
    ⟨_, _, failed, _⟩ | ⟨block, _, taken', some, onward, ready'⟩
  · cases taken.symm.trans failed
  · cases taken.symm.trans taken'
    refine ⟨_, actionsIn block, ready', rfl, ?_⟩
    rw [found, rereadAfter_declared parsed, declaredTask?_declared parsed, some, onward]
    rfl

/-! What the reading answers, and what it does to the store. -/

namespace Rereading

def answer (r : Rereading) (g : Graph) (count : Nat) : Except ScanError Nat :=
  match r.stop with
  | some e => .error e
  | none => .ok (count + r.taken.countP (g.contains ·.name))

def load (r : Rereading) (g : Graph) (store : Store) : Store := r.taken.foldl (attach g) store

theorem answer_inside (r : Rereading) {task : Task} (inside : g.contains task.name = true)
    (count : Nat) :
    { r with taken := task :: r.taken }.answer g count = r.answer g (count + 1) := by
  have more : (task :: r.taken).countP (g.contains ·.name) =
      r.taken.countP (g.contains ·.name) + 1 := List.countP_cons_of_pos inside
  unfold answer
  cases r.stop with
  | some e => rfl
  | none => simp only [more, Nat.add_assoc, Nat.add_comm 1]

theorem answer_outside (r : Rereading) {task : Task} (outside : ¬ g.contains task.name = true)
    (count : Nat) : { r with taken := task :: r.taken }.answer g count = r.answer g count := by
  have same : (task :: r.taken).countP (g.contains ·.name) =
      r.taken.countP (g.contains ·.name) := List.countP_cons_of_neg outside
  unfold answer
  cases r.stop with
  | some e => rfl
  | none => simp only [same]

end Rereading

/-- The second reading is the reading line by line. -/
theorem Ready.attachBlocks {c : Cursor} (ready : Ready before c) (path : String) (g : Graph)
    (store : Store) (count : Nat) :
    Source.attachBlocks path g c store count =
      ((rereadAfter path before c.reader.pending).answer g count,
        (rereadAfter path before c.reader.pending).load g store) := by
  fun_induction Source.attachBlocks path g c store count generalizing before with
  | case1 c store count e after read =>
    have next := ready.nextDeclaration path
    rw [read] at next
    rw [next]
    rfl
  | case2 c store count after read =>
    have next := ready.nextDeclaration path
    rw [read] at next
    rw [next]
    rfl
  | case3 c store count d head read e after block =>
    rw [ready.torn read block]
    rfl
  | case4 c store count d head read actions after block inside ih =>
    obtain ⟨passed, whole, ready', kept, found⟩ := ready.taken read block
    rw [if_pos inside] at kept
    rw [ih ready', found, Rereading.answer_inside _ inside, kept]
    exact congrArg (Prod.mk _ <| List.foldl _ · _) (if_pos inside).symm
  | case5 c store count d head read actions after block outside ih =>
    obtain ⟨passed, whole, ready', _, found⟩ := ready.taken read block
    rw [ih ready', found, Rereading.answer_outside _ outside]
    exact congrArg (Prod.mk _ <| List.foldl _ · _) (if_neg outside).symm

theorem attachActions_eq (path : String) (g : Graph) (bytes : Bytes) (store : Store) :
    attachActions path g (.ofBytes bytes) store =
      ((reread path bytes).answer g 0, (reread path bytes).load g store) :=
  Ready.attachBlocks (c := .ofBytes bytes) ⟨rfl, .inl rfl⟩ path g store 0

theorem attached_load (r : Rereading) (g : Graph) (store : Store) :
    Attached g store (r.load g store) := by
  unfold Rereading.load
  induction r.taken generalizing store with
  | nil => exact .refl g store
  | cons task taken ih =>
    refine .trans ?_ (ih _)
    unfold attach
    split
    next inside => exact attached_setActions inside store task.actions
    next => exact .refl g store

theorem loaded_loaded (task? : Option Task) (entry : TaskEntry) :
    loaded task? (loaded task? entry) = loaded task? entry := by
  cases task? <;> rfl

namespace Rereading

theorem get?_load {name : String} (inside : g.contains name = true) (r : Rereading)
    (store : Store) : (r.load g store).get? name = (store.get? name).map (loaded (r.last? name)) :=
  get?_foldl_attach inside r.taken store

theorem actions_load {name : String} (inside : g.contains name = true) (r : Rereading)
    {store : Store} (declared : store.contains name = true) :
    (r.load g store).actions name =
      match r.last? name with
      | some task => task.actions
      | none => store.actions name := by
  obtain ⟨entry, found⟩ := Option.isSome_iff_exists.mp (store.contains_eq name ▸ declared)
  rw [Store.actions, Store.actions, r.get?_load inside, found]
  cases r.last? name <;> rfl

theorem load_load (r : Rereading) (g : Graph) (store : Store) :
    r.load g (r.load g store) = r.load g store := by
  have again := attached_load r g (r.load g store)
  apply Store.ext_get? _ again.names_eq
  intro name
  cases inside : g.contains name with
  | false => exact again.outside name inside
  | true =>
    rw [r.get?_load inside, r.get?_load inside, Option.map_map]
    exact congrArg (Option.map · _) (funext (loaded_loaded _))

end Rereading

theorem exists_layout_of_attachBlocks {c : Cursor} {store after : Store} {count total : Nat}
    (attached : attachBlocks path g c store count = (.ok total, after)) :
    ∃ found, Layout c.reader.pending found := by
  fun_induction attachBlocks path g c store count with
  | case1 c store count e after read => cases attached
  | case2 c store count after read => exact ⟨[], nextDeclaration_none read⟩
  | case3 c store count d head read e after block => cases attached
  | case4 c store count d head read actions after block inside ih =>
    obtain ⟨found, later⟩ := ih attached
    rw [(takeActionBlock_ok block).1] at later
    exact ⟨_, nextDeclaration_some read later⟩
  | case5 c store count d head read actions after block outside ih =>
    obtain ⟨found, later⟩ := ih attached
    rw [(takeActionBlock_ok block).1] at later
    exact ⟨_, nextDeclaration_some read later⟩

theorem count_of_attachActions {store after : Store} {count : Nat}
    (attached : attachActions path g (.ofBytes bytes) store = (.ok count, after)) :
    count = (tasksOf bytes).countP (g.contains ·.name) := by
  obtain ⟨found, layout⟩ := exists_layout_of_attachBlocks attached
  have counted := layout.attachBlocks path g store 0
  have whole : tasksOf bytes = found := layout.tasks_eq
  cases attached.symm.trans counted
  rw [whole, Nat.zero_add]

/-- A second reading of any file, for any graph and into any store, changes nothing but actions of
tasks of the graph. Each of these has the block that was taken last for it, or what it had where
none was taken. The reading fails if and only if it stops, and otherwise it counts the declarations
of tasks of the graph. To read once more ends in the same way and changes nothing. -/
theorem attachActions_effect (path : String) (g : Graph) (bytes : Bytes) (store : Store) :
    ∃ answer after, attachActions path g (.ofBytes bytes) store = (answer, after) ∧
      Attached g store after ∧
      (∀ name, g.contains name = true → store.contains name = true →
        after.actions name =
          match (reread path bytes).last? name with
          | some task => task.actions
          | none => store.actions name) ∧
      (∀ e, answer = .error e ↔ (reread path bytes).stop = some e) ∧
      (∀ count, answer = .ok count → count = (tasksOf bytes).countP (g.contains ·.name)) ∧
      attachActions path g (.ofBytes bytes) after = (answer, after) := by
  have read := attachActions_eq path g bytes store
  refine ⟨_, _, read, attached_load _ g store, fun name inside declared => ?_, fun e => ?_,
    fun count ended => ?_, ?_⟩
  · exact Rereading.actions_load inside _ declared
  · unfold Rereading.answer
    cases (reread path bytes).stop <;> simp
  · rw [ended] at read
    exact count_of_attachActions read
  · rw [attachActions_eq, Rereading.load_load]

def tornFile : Bytes :=
  Bytes.ofString "a: b\n  one\na:\n\n  two\nb:\n  three\n" ++ [0xff]

example : (reread "tasks" tornFile).taken = [⟨"a", ["b"], ["one"]⟩, ⟨"a", [], ["two"]⟩] ∧
    (reread "tasks" tornFile).stop = some (.unreadable "tasks" .malformedText) := by
  decide +kernel

end Source
end TaskRunner
