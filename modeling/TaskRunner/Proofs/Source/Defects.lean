import TaskRunner.Proofs.Declaration.Reading
import TaskRunner.Proofs.Source.Survey

/-! What is wrong with a task file, said of its lines alone. A line is defective if it is no text,
or if it has to declare a new task and does not. A scan finds the first defective line, with its
number in the file, and where there is none the store has what the declaration lines say. -/

namespace TaskRunner

/-- The store declares exactly this, in this order, and no task has actions. -/
structure Store.Holds (store : Store) (declared : List Declaration) : Prop where
  names_eq : store.names = declared.map (·.name)
  get?_eq : ∀ name, store.get? name =
    (declared.find? (·.name == name)).map fun d => { dependencies := d.dependencies }

namespace Store.Holds

variable {store : Store} {declared : List Declaration}

theorem empty : Store.empty.Holds [] :=
  ⟨rfl, fun _ => Std.ExtTreeMap.getElem?_empty⟩

theorem contains_iff (holds : store.Holds declared) {name : String} :
    store.contains name = true ↔ ∃ d ∈ declared, d.name = name := by
  rw [store.contains_eq, holds.get?_eq, Option.isSome_map, List.find?_isSome]
  simp only [beq_iff_eq]

theorem insert_cases (holds : store.Holds declared) (d : Declaration) :
    (store.insert d = .error d ∧ ∃ other ∈ declared, other.name = d.name) ∨
    ∃ after, store.insert d = .ok after ∧ after.Holds (declared ++ [d]) ∧
      ∀ other ∈ declared, other.name ≠ d.name := by
  by_cases known : store.contains d.name = true
  · exact .inl ⟨if_pos known, holds.contains_iff.mp known⟩
  · obtain ⟨after, inserted⟩ : ∃ after, store.insert d = .ok after := ⟨_, if_neg known⟩
    have apart : ∀ other ∈ declared, other.name ≠ d.name := fun other member same =>
      known (holds.contains_iff.mpr ⟨other, member, same⟩)
    refine .inr ⟨after, inserted, ⟨?_, fun name => ?_⟩, apart⟩
    · rw [Source.names_of_insert inserted, holds.names_eq, List.map_append, List.map_singleton]
    · rw [Store.get?_insert inserted, holds.get?_eq, List.find?_append]
      by_cases same : d.name = name
      · have absent : declared.find? (·.name == name) = none := by
          rw [List.find?_eq_none]
          intro other member equal
          exact apart other member ((beq_iff_eq.mp equal).trans same.symm)
        simp [absent, same]
      · rw [if_neg same, List.find?_cons_of_neg (by simpa using same)]
        simp

theorem isEmpty_eq (holds : store.Holds declared) : store.isEmpty = declared.isEmpty := by
  cases declared with
  | nil =>
    apply Std.ExtTreeMap.isEmpty_iff.mpr
    rw [Std.ExtTreeMap.eq_empty_iff_forall_contains]
    intro name
    apply Bool.eq_false_iff.mpr
    intro known
    obtain ⟨d, member, _⟩ := holds.contains_iff.mp known
    nomatch member
  | cons d rest =>
    exact isEmpty_of_contains (holds.contains_iff.mpr ⟨d, List.mem_cons_self, rfl⟩)

end Store.Holds

namespace Source

def isBlank : Line → Bool
  | .ok line => isBlankLine line
  | .error _ => false

/-- A line has to declare a task if it is not blank, and is either the first such line or not
indented. -/
def startsTask (before : List Line) (line : String) : Bool :=
  !isBlankLine line && (before.all isBlank || !isActionLine line)

def declarationLinesAfter (before : List Line) : List Line → List String
  | [] => []
  | .error e :: rest => declarationLinesAfter (before ++ [.error e]) rest
  | .ok line :: rest =>
    if startsTask before line then line :: declarationLinesAfter (before ++ [.ok line]) rest
    else declarationLinesAfter (before ++ [.ok line]) rest

def declarationLines (pending : List Line) : List String := declarationLinesAfter [] pending

def DeclaredIn (before : List Line) (name : String) : Prop :=
  ∃ line ∈ declarationLines before, ∃ d, Declaration.parse line = .ok d ∧ d.name = name

/-- What is wrong with a line that stands behind others. -/
inductive Defect (path : String) (before : List Line) : Line → ScanError → Prop
  | unreadable (e : IoError) : Defect path before (.error e) (.unreadable path e)
  | grammar {line : String} {offence : Offence} (starts : startsTask before line)
      (refused : Declaration.parse line = .error ⟨line, 0, offence⟩) :
      Defect path before (.ok line) (.grammar ⟨line, before.length + 1, offence⟩)
  | duplicate {line : String} {d : Declaration} (starts : startsTask before line)
      (parsed : Declaration.parse line = .ok d) (taken : DeclaredIn before d.name) :
      Defect path before (.ok line) (.duplicateTask d.name (before.length + 1))

def Sound (path : String) (pending : List Line) : Prop :=
  ∀ before line after, pending = before ++ line :: after → ∀ e, ¬ Defect path before line e

/-- The first of these lines that is defective, and what is wrong with it. -/
def FirstDefect (path : String) (pending : List Line) (e : ScanError) : Prop :=
  ∃ before line after, pending = before ++ line :: after ∧ Sound path before ∧
    Defect path before line e

variable {path : String} {bytes : Bytes} {before pending : List Line} {line : Line} {s : Survey}

theorem Defect.unique {e e' : ScanError} (defect : Defect path before line e)
    (defect' : Defect path before line e') : e = e' := by
  cases defect with
  | unreadable e =>
    cases defect'
    rfl
  | grammar starts refused =>
    cases defect' with
    | grammar starts' refused' =>
      cases refused.symm.trans refused'
      rfl
    | duplicate starts' parsed' taken' => cases refused.symm.trans parsed'
  | duplicate starts parsed taken =>
    cases defect' with
    | grammar starts' refused' => cases parsed.symm.trans refused'
    | duplicate starts' parsed' taken' =>
      cases parsed.symm.trans parsed'
      rfl

theorem Defect.eq_of_sound {line' : Line} {between after after' : List Line} {e e' : ScanError}
    (defect : Defect path before line e) (sound : Sound path (before ++ between))
    (defect' : Defect path (before ++ between) line' e')
    (split : line :: after = between ++ line' :: after') : e = e' := by
  cases between with
  | nil =>
    obtain ⟨rfl, _⟩ := List.cons.inj split
    rw [List.append_nil] at defect'
    exact defect.unique defect'
  | cons other rest =>
    obtain ⟨rfl, _⟩ := List.cons.inj split
    exact absurd defect (sound before line rest rfl e)

theorem FirstDefect.unique {e e' : ScanError} (first : FirstDefect path pending e)
    (first' : FirstDefect path pending e') : e = e' := by
  obtain ⟨before, line, after, split, sound, defect⟩ := first
  obtain ⟨before', line', after', split', sound', defect'⟩ := first'
  rcases List.append_eq_append_iff.mp (split.symm.trans split') with
    ⟨between, rfl, later⟩ | ⟨between, rfl, later⟩
  · exact defect.eq_of_sound sound' defect' later
  · exact (defect'.eq_of_sound sound defect later).symm

theorem declarationLinesAfter_append (before first second : List Line) :
    declarationLinesAfter before (first ++ second) =
      declarationLinesAfter before first ++ declarationLinesAfter (before ++ first) second := by
  induction first generalizing before with
  | nil =>
    rw [List.append_nil]
    rfl
  | cons line first ih =>
    have shift : before ++ line :: first = before ++ [line] ++ first := by simp
    cases line with
    | error e =>
      rw [List.cons_append, declarationLinesAfter, declarationLinesAfter, ih, shift]
    | ok line =>
      rw [List.cons_append, declarationLinesAfter, declarationLinesAfter, ih, shift]
      split
      next => rfl
      next => rfl

theorem declarationLines_concat (before : List Line) (line : String) :
    declarationLines (before ++ [.ok line]) =
      declarationLines before ++ if startsTask before line then [line] else [] := by
  rw [declarationLines, declarationLinesAfter_append, List.nil_append]
  rfl

theorem sound_nil (path : String) : Sound path [] := by
  intro before line after split
  simp at split

theorem sound_concat (sound : Sound path before) (clean : ∀ e, ¬ Defect path before line e) :
    Sound path (before ++ [line]) := by
  intro early other after split e defect
  rcases List.eq_nil_or_concat after with rfl | ⟨rest, last, rfl⟩
  · obtain ⟨rfl, same⟩ := List.append_inj' split rfl
    cases same
    exact clean e defect
  · rw [List.concat_eq_append, ← List.cons_append, ← List.append_assoc] at split
    obtain ⟨rfl, _⟩ := List.append_inj' split rfl
    exact sound early other rest rfl e defect

structure Surveyed (before : List Line) (s : Survey) : Prop where
  taken : s.taken = before.length
  begun : s.begun = !before.all isBlank
  declared : ∃ declared, (declarationLines before).map Declaration.parse = declared.map .ok ∧
    s.store.Holds declared ∧ (s.begun = !declared.isEmpty)

theorem surveyed_nil : Surveyed [] {} := ⟨rfl, rfl, [], rfl, .empty, rfl⟩

theorem Surveyed.passesOver_eq (surveyed : Surveyed before s) (line : String) :
    s.passesOver line = !startsTask before line := by
  rw [Survey.passesOver, startsTask, surveyed.begun]
  cases isBlankLine line <;> cases before.all isBlank <;> cases isActionLine line <;> rfl

theorem declaredIn_iff {declared : List Declaration} {name : String}
    (same : (declarationLines before).map Declaration.parse = declared.map .ok) :
    DeclaredIn before name ↔ ∃ d ∈ declared, d.name = name := by
  have member (d : Declaration) :
      (∃ line ∈ declarationLines before, Declaration.parse line = .ok d) ↔ d ∈ declared := by
    rw [← List.mem_map, same]
    simp
  constructor
  · rintro ⟨line, within, d, parsed, named⟩
    exact ⟨d, (member d).mp ⟨line, within, parsed⟩, named⟩
  · rintro ⟨d, within, named⟩
    obtain ⟨line, within', parsed⟩ := (member d).mpr within
    exact ⟨line, within', d, parsed, named⟩

theorem Surveyed.pass (surveyed : Surveyed before s) {line : String}
    (passed : startsTask before line = false) :
    Surveyed (before ++ [.ok line]) { s with taken := s.taken + 1 } where
  taken := by rw [List.length_append, List.length_singleton, ← surveyed.taken]
  begun := by
    rw [startsTask] at passed
    rw [List.all_append, List.all_cons, List.all_nil, Bool.and_true, surveyed.begun]
    show _ = !(before.all isBlank && isBlankLine line)
    cases blank : isBlankLine line with
    | true => rw [Bool.and_true]
    | false =>
      rw [blank] at passed
      obtain ⟨later, _⟩ := Bool.or_eq_false_iff.mp passed
      rw [later, Bool.false_and]
  declared := by
    rw [declarationLines_concat, passed, if_neg Bool.false_ne_true, List.append_nil]
    exact surveyed.declared

theorem Surveyed.declare (surveyed : Surveyed before s) {declared : List Declaration}
    (parses : (declarationLines before).map Declaration.parse = declared.map .ok)
    {line : String} {d : Declaration} {store : Store} (starts : startsTask before line = true)
    (parsed : Declaration.parse line = .ok d) (holds : store.Holds (declared ++ [d])) :
    Surveyed (before ++ [.ok line]) ⟨s.taken + 1, true, store⟩ where
  taken := by rw [List.length_append, List.length_singleton, ← surveyed.taken]
  begun := by
    have present : isBlankLine line = false := by
      rw [startsTask, Bool.and_eq_true, Bool.not_eq_true'] at starts
      exact starts.1
    rw [List.all_append, List.all_cons, List.all_nil, Bool.and_true]
    show true = !(before.all isBlank && isBlankLine line)
    rw [present, Bool.and_false]
    rfl
  declared := by
    refine ⟨declared ++ [d], ?_, holds, by simp⟩
    rw [declarationLines_concat, starts, if_pos rfl, List.map_append, List.map_append, parses,
      List.map_singleton, List.map_singleton, parsed]

theorem Surveyed.readLine (surveyed : Surveyed before s) (path : String) (line : Line) :
    (∃ after, s.readLine path line = .ok after ∧ Surveyed (before ++ [line]) after ∧
      ∀ e, ¬ Defect path before line e) ∨
    ∃ e, s.readLine path line = .error e ∧ Defect path before line e := by
  obtain ⟨declared, parses, holds, _⟩ := surveyed.declared
  cases line with
  | error e => exact .inr ⟨_, rfl, .unreadable e⟩
  | ok line =>
    rw [Survey.readLine, surveyed.passesOver_eq]
    cases starts : startsTask before line with
    | false =>
      refine .inl ⟨_, rfl, surveyed.pass starts, fun e defect => ?_⟩
      cases defect with
      | grammar starts' => cases starts.symm.trans starts'
      | duplicate starts' => cases starts.symm.trans starts'
    | true =>
      have number : s.taken + 1 = before.length + 1 := congrArg (· + 1) surveyed.taken
      cases parsed : Declaration.parse line with
      | error e =>
        obtain ⟨text, unset, offence⟩ := e
        obtain ⟨rfl, rfl, _⟩ := Declaration.parse_eq_error.mp parsed
        refine .inr ⟨_, Survey.declare_refused parsed, ?_⟩
        rw [number]
        exact .grammar starts parsed
      | ok d =>
        rcases holds.insert_cases d with ⟨known, taken⟩ | ⟨after, inserted, holds', apart⟩
        · refine .inr ⟨_, Survey.declare_taken parsed known, ?_⟩
          rw [number]
          exact .duplicate starts parsed ((declaredIn_iff parses).mpr taken)
        · refine .inl ⟨_, Survey.declare_ok parsed inserted,
            surveyed.declare parses starts parsed holds', fun e defect => ?_⟩
          cases defect with
          | grammar starts' refused => cases parsed.symm.trans refused
          | duplicate starts' parsed' taken =>
            cases parsed.symm.trans parsed'
            obtain ⟨other, member, same⟩ := (declaredIn_iff parses).mp taken
            exact apart other member same

theorem Surveyed.readLines (surveyed : Surveyed before s) (path : String)
    (sound : Sound path before) (pending : List Line) :
    (∃ after, s.readLines path pending = .ok after ∧ Surveyed (before ++ pending) after ∧
      Sound path (before ++ pending)) ∨
    ∃ e, s.readLines path pending = .error e ∧ FirstDefect path (before ++ pending) e := by
  induction pending generalizing before s with
  | nil =>
    rw [List.append_nil]
    exact .inl ⟨s, rfl, surveyed, sound⟩
  | cons line rest ih =>
    rcases surveyed.readLine path line with ⟨middle, read, surveyed', clean⟩ | ⟨e, failed, defect⟩
    · have onward : s.readLines path (line :: rest) = middle.readLines path rest := by
        rw [Survey.readLines, List.foldlM_cons, read]
        rfl
      have split : before ++ line :: rest = before ++ [line] ++ rest := by simp
      rw [onward, split]
      exact ih surveyed' (sound_concat sound clean)
    · refine .inr ⟨e, ?_, before, line, rest, rfl, sound, defect⟩
      rw [Survey.readLines, List.foldlM_cons, failed]
      rfl

theorem scan_cases (path : String) (bytes : Bytes) :
    (∃ store declared, scan path (.ofBytes bytes) = .ok store ∧ Sound path (lines bytes) ∧
      (declarationLines (lines bytes)).map Declaration.parse = declared.map .ok ∧
      store.Holds declared ∧ declarationLines (lines bytes) ≠ []) ∨
    (scan path (.ofBytes bytes) = .error (.emptyFile path) ∧ Sound path (lines bytes) ∧
      declarationLines (lines bytes) = [] ∧ ∀ line ∈ lines bytes, isBlank line = true) ∨
    ∃ e, scan path (.ofBytes bytes) = .error e ∧ FirstDefect path (lines bytes) e := by
  unfold scan
  rw [Survey.addDeclarations_ofBytes]
  rcases surveyed_nil.readLines path (sound_nil path) (lines bytes) with
    ⟨after, read, surveyed, sound⟩ | ⟨e, failed, first⟩
  · rw [List.nil_append] at surveyed sound
    rw [read]
    obtain ⟨declared, parses, holds, begun⟩ := surveyed.declared
    have none_iff : declarationLines (lines bytes) = [] ↔ declared = [] := by
      rw [← List.map_eq_nil_iff (f := Declaration.parse), parses, List.map_eq_nil_iff]
    simp only [Except.map, holds.isEmpty_eq]
    cases declared with
    | nil =>
      have blank : (lines bytes).all isBlank = true := by simpa [surveyed.begun] using begun
      exact .inr (.inl ⟨rfl, sound, none_iff.mpr rfl, List.all_eq_true.mp blank⟩)
    | cons d rest =>
      exact .inl ⟨after.store, d :: rest, rfl, sound, parses, holds,
        fun none => nomatch none_iff.mp none⟩
  · rw [List.nil_append] at first
    rw [failed]
    exact .inr (.inr ⟨e, rfl, first⟩)

example : (scan "tasks" (.ofBytes (.ofString "\nlib:\n\tcc\n\nld app: lib\nlib:\n"))).map Store.names =
    .error (.grammar ⟨"ld app: lib", 5, .invalidCharacter 2 ' '⟩) := by decide +kernel

example : (scan "tasks" (.ofBytes (.ofString "lib:\r\n\tcc\r\n\r\nlib: app\n:"))).map Store.names =
    .error (.duplicateTask "lib" 4) := by decide +kernel

end Source
end TaskRunner
