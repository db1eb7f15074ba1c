import TaskRunner.Proofs.Source.Lookahead
import TaskRunner.Proofs.Source.Rereading

/-! Blank lines and line ends say nothing. Either reading of a file answers what it answers for the
lines that are not blank, but for the line numbers in its errors. So files that differ in blank
lines alone are read alike, and the lines of a file are the same with a carriage return before each
of its line feeds. -/

namespace TaskRunner

def ScanError.unnumbered : ScanError → ScanError
  | .duplicateTask name _ => .duplicateTask name 0
  | .grammar cause => .grammar { cause with lineNumber := 0 }
  | e => e

namespace Source

/-- The lines that are not blank. -/
def nonBlank (pending : List Line) : List Line := pending.filter (!isBlank ·)

theorem nonBlank_cons_of_blank {line : Line} (blank : isBlank line = true) (rest : List Line) :
    nonBlank (line :: rest) = nonBlank rest := List.filter_cons_of_neg (by simp [blank])

theorem nonBlank_cons {line : Line} (present : isBlank line = false) (rest : List Line) :
    nonBlank (line :: rest) = line :: nonBlank rest := List.filter_cons_of_pos (by simp [present])

namespace Survey

def unnumbered (answer : Except ScanError Survey) : Except ScanError (Bool × Store) :=
  (answer.map fun s => (s.begun, s.store)).mapError ScanError.unnumbered

theorem unnumbered_cases {answer other : Except ScanError Survey}
    (same : unnumbered answer = unnumbered other) :
    (∃ e e', answer = .error e ∧ other = .error e' ∧ e.unnumbered = e'.unnumbered) ∨
      ∃ n m begun store, answer = .ok ⟨n, begun, store⟩ ∧ other = .ok ⟨m, begun, store⟩ := by
  cases answer with
  | error e =>
    cases other with
    | error e' => exact .inl ⟨e, e', rfl, rfl, Except.error.inj same⟩
    | ok t => cases same
  | ok s =>
    cases other with
    | error e' => cases same
    | ok t =>
      obtain ⟨n, begun, store⟩ := s
      obtain ⟨m, begun', store'⟩ := t
      obtain ⟨rfl, rfl⟩ := Prod.mk.inj (Except.ok.inj same)
      exact .inr ⟨n, m, begun, store, rfl, rfl⟩

section Numbers
variable (path : String) (n m : Nat) (begun : Bool) (store : Store)

theorem unnumbered_declare (line : String) :
    unnumbered (declare ⟨n, begun, store⟩ line) = unnumbered (declare ⟨m, begun, store⟩ line) := by
  cases parsed : Declaration.parse line with
  | error e =>
    rw [declare_refused parsed, declare_refused parsed]
    rfl
  | ok d =>
    cases inserted : store.insert d with
    | error other =>
      rw [declare_taken parsed inserted, declare_taken parsed inserted]
      rfl
    | ok after =>
      rw [declare_ok parsed inserted, declare_ok parsed inserted]
      rfl

theorem unnumbered_readLine (line : Line) :
    unnumbered (readLine path ⟨n, begun, store⟩ line) =
      unnumbered (readLine path ⟨m, begun, store⟩ line) := by
  cases line with
  | error e => rfl
  | ok line =>
    have same : passesOver ⟨m, begun, store⟩ line = passesOver ⟨n, begun, store⟩ line := rfl
    rw [readLine, readLine, same]
    split
    next => rfl
    next => exact unnumbered_declare n m begun store line

theorem readLine_blank {line : Line} (blank : isBlank line = true) :
    readLine path ⟨n, begun, store⟩ line = .ok ⟨n + 1, begun, store⟩ := by
  cases line with
  | error e => cases blank
  | ok line =>
    have passed : passesOver ⟨n, begun, store⟩ line = true := Bool.or_eq_true_iff.mpr (.inl blank)
    rw [readLine, if_pos passed]

theorem unnumbered_readLines (pending : List Line) :
    unnumbered (readLines path ⟨n, begun, store⟩ pending) =
      unnumbered (readLines path ⟨m, begun, store⟩ (nonBlank pending)) := by
  induction pending generalizing n m begun store with
  | nil => rfl
  | cons line rest ih =>
    cases blank : isBlank line with
    | true =>
      rw [nonBlank_cons_of_blank blank, readLines, List.foldlM_cons,
        readLine_blank path n begun store blank]
      exact ih ..
    | false =>
      have step := unnumbered_readLine path n m begun store line
      rw [nonBlank_cons blank, readLines, readLines, List.foldlM_cons, List.foldlM_cons]
      rcases unnumbered_cases step with
        ⟨e, e', read, read', errors⟩ | ⟨taken, taken', begun, store, read, read'⟩
      · rw [read, read']
        exact congrArg Except.error errors
      · rw [read, read']
        exact ih ..

end Numbers
end Survey

variable {path : String} {first second bytes : Bytes} {before before' : List Line}

theorem scan_of_nonBlank (same : nonBlank (lines first) = nonBlank (lines second)) :
    (scan path (.ofBytes first)).mapError ScanError.unnumbered =
      (scan path (.ofBytes second)).mapError ScanError.unnumbered := by
  have surveys : Survey.unnumbered (Survey.readLines path {} (lines first)) =
      Survey.unnumbered (Survey.readLines path {} (lines second)) := by
    rw [Survey.unnumbered_readLines path 0 0, same, ← Survey.unnumbered_readLines path 0 0]
  unfold scan
  rw [Survey.addDeclarations_ofBytes, Survey.addDeclarations_ofBytes]
  rcases Survey.unnumbered_cases surveys with
    ⟨e, e', read, read', errors⟩ | ⟨_, _, _, store, read, read'⟩
  · rw [read, read']
    exact congrArg Except.error errors
  · rw [read, read']
    rfl

/-! In the second reading a block goes on behind blank lines, and none of its actions is on one. -/

theorem splitBlock_nonBlank (pending : List Line) :
    splitBlock (nonBlank pending) =
      ((splitBlock pending).1.filter (!isBlankLine ·), nonBlank (splitBlock pending).2) := by
  fun_induction splitBlock pending with
  | case1 line rest inside ih =>
    cases blank : isBlankLine line with
    | true =>
      rw [nonBlank_cons_of_blank (show isBlank (.ok line) = true from blank), ih,
        List.filter_cons_of_neg (by simp [blank])]
    | false =>
      rw [nonBlank_cons (show isBlank (.ok line) = false from blank), splitBlock, if_pos inside, ih,
        List.filter_cons_of_pos (by simp [blank])]
  | case2 line rest outside =>
    rw [nonBlank_cons (isBlank_of_not_inBlock outside), splitBlock, if_neg outside]
    rfl
  | case3 pending other =>
    rcases pending with _ | ⟨_ | line, rest⟩
    · rfl
    · rfl
    · exact absurd rfl (other line rest)

theorem actionsIn_filter (block : List String) :
    actionsIn (block.filter (!isBlankLine ·)) = actionsIn block := by
  rw [actionsIn_eq, List.filter_filter]
  simp only [Bool.and_self]
  rfl

theorem map_block?_nonBlank (pending : List Line) :
    (block? (nonBlank pending)).map actionsIn = (block? pending).map actionsIn := by
  have split := splitBlock_nonBlank pending
  rcases cut : splitBlock pending with ⟨block, rest⟩
  rw [cut] at split
  rcases rest with _ | ⟨e | line, later⟩
  · rw [block?_whole cut nofun, block?_whole split nofun]
    exact congrArg some (actionsIn_filter block)
  · rw [block?_torn cut, block?_torn split]
  · have outside : ¬ inBlock line := splitBlock_ends (congrArg Prod.snd cut)
    rw [nonBlank_cons (isBlank_of_not_inBlock outside)] at split
    rw [block?_whole cut nofun, block?_whole split nofun]
    exact congrArg some (actionsIn_filter block)

theorem declaredTask?_nonBlank (line : Line) (rest : List Line) :
    declaredTask? line (nonBlank rest) = declaredTask? line rest := by
  unfold declaredTask?
  split
  next => rfl
  next d _ =>
    have blocks := congrArg (Option.map fun actions => (⟨d.name, d.dependencies, actions⟩ : Task))
      (map_block?_nonBlank rest)
    rwa [Option.map_map, Option.map_map] at blocks

theorem stop?_cases (path : String) (same : before.all isBlank = before'.all isBlank)
    (line : Line) :
    (∃ e e', stop? path before line = some e ∧ stop? path before' line = some e' ∧
      e.unnumbered = e'.unnumbered) ∨
      stop? path before line = none ∧ stop? path before' line = none := by
  cases line with
  | error e => exact .inl ⟨_, _, rfl, rfl, rfl⟩
  | ok line =>
    have starts : startsTask before line = startsTask before' line := by
      rw [startsTask, startsTask, same]
    rw [stop?, stop?, starts]
    split
    next =>
      cases Declaration.parse line with
      | error e => exact .inl ⟨_, _, rfl, rfl, rfl⟩
      | ok d => exact .inr ⟨rfl, rfl⟩
    next => exact .inr ⟨rfl, rfl⟩

namespace Rereading

def unnumbered (r : Rereading) : Rereading := { r with stop := r.stop.map ScanError.unnumbered }

theorem answer_unnumbered (r : Rereading) (g : Graph) (count : Nat) :
    r.unnumbered.answer g count = (r.answer g count).mapError ScanError.unnumbered := by
  unfold answer unnumbered
  cases r.stop <;> rfl

theorem load_unnumbered (r : Rereading) (g : Graph) (store : Store) :
    r.unnumbered.load g store = r.load g store := rfl

end Rereading

theorem unnumbered_rereadAfter (same : before.all isBlank = before'.all isBlank)
    (pending : List Line) :
    (rereadAfter path before pending).unnumbered =
      (rereadAfter path before' (nonBlank pending)).unnumbered := by
  induction pending generalizing before before' with
  | nil => rfl
  | cons line rest ih =>
    cases blank : isBlank line with
    | true =>
      cases line with
      | error e => cases blank
      | ok line =>
        rw [nonBlank_cons_of_blank blank, rereadAfter_passedOver (.inl blank)]
        apply ih
        rw [List.all_append, List.all_cons, blank, same]
        simp
    | false =>
      have later := @ih (before ++ [line]) (before' ++ [line])
        (by rw [List.all_append, List.all_append, same])
      rw [nonBlank_cons blank, rereadAfter, rereadAfter]
      rcases stop?_cases path same line with ⟨e, e', stopped, stopped', errors⟩ | ⟨on, on'⟩
      · rw [stopped, stopped']
        exact congrArg (fun stop => (⟨[], some stop⟩ : Rereading)) errors
      · obtain ⟨taken, stop⟩ := Rereading.mk.inj later
        simp only [on, on', Rereading.unnumbered, declaredTask?_nonBlank, taken, stop]

theorem unnumbered_reread (same : nonBlank (lines first) = nonBlank (lines second)) :
    (reread path first).unnumbered = (reread path second).unnumbered := by
  have alone (bytes : Bytes) : (reread path bytes).unnumbered =
      (rereadAfter path [] (nonBlank (lines bytes))).unnumbered := unnumbered_rereadAfter rfl _
  rw [alone, alone, same]

/-- Both readings of one file end as those of the other, but for the line numbers in errors. -/
structure ReadAlike (path : String) (first second : Bytes) : Prop where
  scanned : (scan path (.ofBytes first)).mapError ScanError.unnumbered =
    (scan path (.ofBytes second)).mapError ScanError.unnumbered
  attached : ∀ g store,
    (attachActions path g (.ofBytes first) store).1.mapError ScanError.unnumbered =
      (attachActions path g (.ofBytes second) store).1.mapError ScanError.unnumbered
  loaded : ∀ g store, (attachActions path g (.ofBytes first) store).2 =
    (attachActions path g (.ofBytes second) store).2

theorem readAlike_of_nonBlank (path : String)
    (same : nonBlank (lines first) = nonBlank (lines second)) : ReadAlike path first second where
  scanned := scan_of_nonBlank same
  attached g store := by
    rw [attachActions_eq, attachActions_eq, ← Rereading.answer_unnumbered,
      ← Rereading.answer_unnumbered, unnumbered_reread same]
  loaded g store := by
    rw [attachActions_eq, attachActions_eq]
    dsimp only
    rw [← Rereading.load_unnumbered, unnumbered_reread same, Rereading.load_unnumbered]

/-! Line ends. -/

/-- Every line that ends, ends with a line feed alone. -/
def EndsWithFeeds (bytes : Bytes) : Prop := ¬ [carriageReturn, lineFeed] <:+: bytes

def withReturns (bytes : Bytes) : Bytes :=
  bytes.flatMap fun byte => if byte = lineFeed then [carriageReturn, lineFeed] else [byte]

theorem withReturns_of_not_mem {line : Bytes} (single : lineFeed ∉ line) :
    withReturns line = line := by
  have kept : ∀ byte ∈ line, (if byte = lineFeed then [carriageReturn, lineFeed] else [byte]) =
      [byte] := by
    intro byte member
    rw [if_neg]
    rintro rfl
    exact single member
  rw [withReturns, List.flatMap_congr kept, List.flatMap_singleton']

theorem withReturns_append (line rest : Bytes) :
    withReturns (line ++ rest) = withReturns line ++ withReturns rest := List.flatMap_append

theorem dropReturn_concat (line : Bytes) : dropReturn (line ++ [carriageReturn]) = line := by
  rw [dropReturn, List.getLast?_concat, if_pos rfl, List.dropLast_concat]

theorem EndsWithFeeds.dropReturn_eq {line rest : Bytes}
    (feeds : EndsWithFeeds (line ++ lineFeed :: rest)) : dropReturn line = line := by
  refine if_neg fun ends => feeds ?_
  obtain ⟨front, rfl⟩ := List.getLast?_eq_some_iff.mp ends
  exact ⟨front, rest, by simp⟩

theorem lines_withReturns (feeds : EndsWithFeeds bytes) :
    lines (withReturns bytes) = lines bytes := by
  fun_induction lines bytes with
  | case1 => exact lines_nil
  | case2 bytes unread ih =>
    by_cases several : lineFeed ∈ bytes
    · obtain ⟨line, rest, rfl, clean⟩ := List.eq_append_cons_of_mem several
      have clean' : lineFeed ∉ line ++ [carriageReturn] := by
        simpa using ⟨clean, by decide⟩
      have split : withReturns (line ++ lineFeed :: rest) =
          line ++ [carriageReturn] ++ lineFeed :: withReturns rest := by
        rw [withReturns_append, withReturns_of_not_mem clean, List.append_assoc]
        rfl
      have later : EndsWithFeeds rest := fun inside =>
        feeds (inside.trans ((List.suffix_cons _ _).trans (List.suffix_append _ _)).isInfix)
      rw [splitLine_append clean] at ih ⊢
      rw [split, lines_cons (by simp), splitLine_append clean', dropReturn_concat,
        feeds.dropReturn_eq, ih later]
    · rw [withReturns_of_not_mem several, lines_cons unread]

/-- Files whose lines are the same without the blank ones are read alike, but for the line numbers
in errors: the first reading gives the same store or the same error, and the second gives for every
graph and store the same count or the same error, and the same store. A file whose lines end with
line feeds alone has the same lines with a carriage return before each of them. -/
theorem blank_lines_ignored (path : String) :
    (∀ first second : Bytes, nonBlank (lines first) = nonBlank (lines second) →
        ReadAlike path first second) ∧
      ∀ bytes, EndsWithFeeds bytes →
        lines (withReturns bytes) = lines bytes ∧ ReadAlike path (withReturns bytes) bytes := by
  refine ⟨fun first second same => readAlike_of_nonBlank path same, fun bytes feeds => ?_⟩
  have same := lines_withReturns feeds
  exact ⟨same, readAlike_of_nonBlank path (congrArg nonBlank same)⟩

def tidyFile : Bytes := .ofString "a: b\n  one\n\ttwo\nb:\nb: a\n"

def spacedFile : Bytes :=
  .ofString "\n\u3000\na: b\r\n\n \t\r\n  one\r\n\u00a0\n\ttwo\r\nb:\n\u0085\nb: a"

theorem blank_lines_ignored_spaced :
    nonBlank (lines spacedFile) = nonBlank (lines tidyFile) ∧
      (scan "tasks" (.ofBytes tidyFile)).map (·.names) = .error (.duplicateTask "b" 5) ∧
      (scan "tasks" (.ofBytes spacedFile)).map (·.names) = .error (.duplicateTask "b" 11) ∧
      ReadAlike "tasks" spacedFile tidyFile ∧
      EndsWithFeeds tidyFile ∧ ReadAlike "tasks" (withReturns tidyFile) tidyFile := by
  have same : nonBlank (lines spacedFile) = nonBlank (lines tidyFile) := by decide +kernel
  have feeds : EndsWithFeeds tidyFile := by
    unfold EndsWithFeeds
    decide +kernel
  exact ⟨same, by decide +kernel, by decide +kernel, (blank_lines_ignored "tasks").1 _ _ same,
    feeds, ((blank_lines_ignored "tasks").2 _ feeds).2⟩

end Source
end TaskRunner
