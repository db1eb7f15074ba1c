import TaskRunner.Proofs.Source.Encoding
import TaskRunner.Proofs.Source.Rereading

/-! No part of a file that is no text is passed over in silence. A file is text just if each of its
lines is, since no encoded character contains a line end. A reading that ends well has taken every
line, also those of the blocks that it does not keep. -/

namespace TaskRunner

namespace Bytes

def IsText (bytes : Bytes) : Prop := ∃ text : String, ofString text = bytes

theorem toString?_eq_some {bytes : Bytes} {text : String} :
    bytes.toString? = some text ↔ ofString text = bytes := by
  constructor
  · intro read
    unfold toString? String.fromUTF8? at read
    split at read
    next valid =>
      cases read
      rfl
    next => cases read
  · rintro rfl
    exact toString?_ofString text

theorem IsText.append {first second : Bytes} (left : first.IsText) (right : second.IsText) :
    IsText (first ++ second) := by
  obtain ⟨s, rfl⟩ := left
  obtain ⟨t, rfl⟩ := right
  exact ⟨s ++ t, ofString_append s t⟩

end Bytes

namespace Source

def Readable (pending : List Line) : Prop := ∀ line ∈ pending, ∃ text, line = .ok text

theorem readable_nil : Readable [] := nofun

theorem readable_cons {line : Line} {rest : List Line} :
    Readable (line :: rest) ↔ (∃ text, line = .ok text) ∧ Readable rest := List.forall_mem_cons

theorem decode_eq_ok {line : Bytes} {text : String} :
    decode line = .ok text ↔ Bytes.ofString text = line := by
  rw [← Bytes.toString?_eq_some, decode]
  cases line.toString? <;> simp

theorem isText_iff_decode {line : Bytes} : line.IsText ↔ ∃ text, decode line = .ok text :=
  exists_congr fun _ => decode_eq_ok.symm

theorem isText_dropReturn_iff (line : Bytes) : (dropReturn line).IsText ↔ line.IsText := by
  constructor
  · intro front
    unfold dropReturn at front
    split at front
    next ends =>
      obtain ⟨chars, rfl⟩ := List.getLast?_eq_some_iff.mp ends
      rw [List.dropLast_concat] at front
      exact front.append ⟨"\r", rfl⟩
    next => exact front
  · rintro ⟨text, rfl⟩
    exact ⟨chomp text, (dropReturn_ofString text).symm⟩

theorem exists_eq_append_lineFeed {text : String} (present : '\n' ∈ text.toList) :
    ∃ front back : String, '\n' ∉ front.toList ∧ text = front ++ "\n" ++ back := by
  obtain ⟨front, back, split, single⟩ := List.eq_append_cons_of_mem present
  refine ⟨String.ofList front, String.ofList back, by rwa [String.toList_ofList], ?_⟩
  rw [← String.toList_inj, split]
  simp

/-- A text that is cut at a line feed is cut between two characters. -/
theorem isText_append_lineFeed_iff {line : Bytes} (clean : lineFeed ∉ line) (rest : Bytes) :
    (line ++ lineFeed :: rest).IsText ↔ line.IsText ∧ rest.IsText := by
  constructor
  · rintro ⟨text, encoded⟩
    have present : '\n' ∈ text.toList :=
      (lineFeed_mem_ofString_iff text).mp (by simp [encoded])
    obtain ⟨front, back, single, rfl⟩ := exists_eq_append_lineFeed present
    have cut : line ++ lineFeed :: rest =
        Bytes.ofString front ++ lineFeed :: Bytes.ofString back := by
      rw [← encoded, Bytes.ofString_append, Bytes.ofString_append, List.append_assoc]
      rfl
    -- The first piece of either side ends at its first line feed.
    have pieces : line :: rest.splitOn lineFeed =
        Bytes.ofString front :: (Bytes.ofString back).splitOn lineFeed := by
      rw [← List.splitOn_append_cons_self_of_not_mem clean, cut,
        List.splitOn_append_cons_self_of_not_mem (lineFeed_not_mem_ofString single)]
    obtain ⟨rfl, _⟩ := List.cons.inj pieces
    have behind := List.append_cancel_left cut
    exact ⟨⟨front, rfl⟩, back, (List.cons.inj behind).2.symm⟩
  · rintro ⟨left, right⟩
    exact left.append (.append ⟨"\n", rfl⟩ right)

theorem readable_lines_iff (bytes : Bytes) : Readable (lines bytes) ↔ bytes.IsText := by
  fun_induction lines bytes with
  | case1 => exact iff_of_true readable_nil ⟨"", rfl⟩
  | case2 bytes unread ih =>
    by_cases several : lineFeed ∈ bytes
    · obtain ⟨line, rest, rfl, clean⟩ := List.eq_append_cons_of_mem several
      rw [splitLine_append clean] at ih ⊢
      rw [readable_cons, ← isText_iff_decode, isText_dropReturn_iff, ih,
        isText_append_lineFeed_iff clean]
    · rw [splitLine_last several, readable_cons, ← isText_iff_decode, lines_nil]
      exact and_iff_left readable_nil

variable {path : String} {bytes : Bytes} {pending : List Line}

theorem Layout.readable {found : List Task} (layout : Layout pending found) : Readable pending := by
  induction layout with
  | nil => exact readable_nil
  | blank _ _ ih => exact readable_cons.mpr ⟨⟨_, rfl⟩, ih⟩
  | @task line d rest found parsed later ih =>
    refine readable_cons.mpr ⟨⟨_, rfl⟩, fun other member => ?_⟩
    rw [pending_splitBlock rest] at member
    rcases List.mem_append.mp member with inside | behind
    · obtain ⟨text, _, rfl⟩ := List.mem_map.mp inside
      exact ⟨text, rfl⟩
    · exact ih other behind

theorem FirstDefect.not_readable {origin : String} {cause : IoError}
    (first : FirstDefect path pending (.unreadable origin cause)) : ¬ Readable pending := by
  obtain ⟨before, line, after, split, _, defect⟩ := first
  intro readable
  obtain ⟨text, rfl⟩ := readable line (by rw [split]; simp)
  nomatch defect

theorem stop?_ok_ne_unreadable (before : List Line) (line origin : String) (cause : IoError) :
    stop? path before (.ok line) ≠ some (.unreadable origin cause) := by
  intro stopped
  rw [stop?] at stopped
  split at stopped
  next => cases parsed : Declaration.parse line <;> simp [parsed] at stopped
  next => cases stopped

theorem stop_ne_unreadable (readable : Readable pending) (before : List Line) (origin : String)
    (cause : IoError) : (rereadAfter path before pending).stop ≠ some (.unreadable origin cause) := by
  induction pending generalizing before with
  | nil => nofun
  | cons line rest ih =>
    obtain ⟨⟨text, rfl⟩, later⟩ := readable_cons.mp readable
    rw [rereadAfter]
    cases stopped : stop? path before (.ok text) with
    | none => exact ih later _
    | some e => exact fun same => stop?_ok_ne_unreadable before text origin cause (stopped.trans same)

/-- A file that is scanned, or that is read again to its end for some graph and into some store, is
text. A file that is text never makes either reading fail as one that cannot be read. -/
theorem undecodable_never_skipped (path : String) (bytes : Bytes) :
    (∀ store, scan path (.ofBytes bytes) = .ok store → bytes.IsText) ∧
      (∀ g store count after, attachActions path g (.ofBytes bytes) store = (.ok count, after) →
        bytes.IsText) ∧
      (bytes.IsText → ∀ origin cause,
        scan path (.ofBytes bytes) ≠ .error (.unreadable origin cause) ∧
          ∀ g store, (attachActions path g (.ofBytes bytes) store).1 ≠
            .error (.unreadable origin cause)) := by
  refine ⟨fun store scanned => ?_, fun g store count after attached => ?_,
    fun text origin cause => ⟨fun failed => ?_, fun g store failed => ?_⟩⟩
  · exact (readable_lines_iff bytes).mp (scan_ok scanned).1.readable
  · obtain ⟨found, layout⟩ := exists_layout_of_attachBlocks attached
    exact (readable_lines_iff bytes).mp layout.readable
  · have readable := (readable_lines_iff bytes).mpr text
    rcases scan_cases path bytes with ⟨_, _, scanned, _⟩ | ⟨empty, _⟩ | ⟨e, refused, first⟩
    · cases failed.symm.trans scanned
    · cases failed.symm.trans empty
    · cases failed.symm.trans refused
      exact first.not_readable readable
  · have readable := (readable_lines_iff bytes).mpr text
    rw [attachActions_eq] at failed
    unfold Rereading.answer at failed
    split at failed
    next e stopped =>
      cases failed
      exact stop_ne_unreadable readable [] origin cause stopped
    next => cases failed

def accentedFile : Bytes := [97, 58, 10, 98, 58, 10, 32, 0xc3, 0xbc]

theorem undecodable_never_skipped_accented :
    ∃ store g loaded, scan "tasks" (.ofBytes accentedFile) = .ok store ∧
      Graph.build "a" store = .ok g ∧ g.contains "b" = false ∧
      attachActions "tasks" g (.ofBytes accentedFile) store = (.ok 1, loaded) ∧
      accentedFile.IsText ∧ ¬ Bytes.IsText accentedFile.dropLast ∧
      scan "tasks" (.ofBytes accentedFile.dropLast) =
        .error (.unreadable "tasks" .malformedText) ∧
      ∀ count after,
        attachActions "tasks" g (.ofBytes accentedFile.dropLast) store ≠ (.ok count, after) := by
  have seen : ((scan "tasks" (.ofBytes accentedFile)).toOption.bind fun store =>
      (Graph.build "a" store).toOption.map fun g => (g.contains "b",
        (attachActions "tasks" g (.ofBytes accentedFile) store).1)) = some (false, .ok 1) := by
    decide +kernel
  have damaged : scan "tasks" (.ofBytes accentedFile.dropLast) =
      .error (.unreadable "tasks" .malformedText) := by
    have failed : (scan "tasks" (.ofBytes accentedFile.dropLast)).map (·.names) =
        .error (.unreadable "tasks" .malformedText) := by decide +kernel
    cases scanned : scan "tasks" (.ofBytes accentedFile.dropLast) with
    | error e => simpa [scanned, Except.map] using failed
    | ok store => simp [scanned, Except.map] at failed
  obtain ⟨scanned_text, _, _⟩ := undecodable_never_skipped "tasks" accentedFile
  obtain ⟨_, attached_text, text_read⟩ := undecodable_never_skipped "tasks" accentedFile.dropLast
  have torn : ¬ Bytes.IsText accentedFile.dropLast :=
    fun text => (text_read text "tasks" .malformedText).1 damaged
  cases scanned : scan "tasks" (.ofBytes accentedFile) with
  | error e => simp [scanned, Except.toOption] at seen
  | ok store =>
    cases built : Graph.build "a" store with
    | error e => simp [scanned, built, Except.toOption] at seen
    | ok g =>
      have facts : g.contains "b" = false ∧
          (attachActions "tasks" g (.ofBytes accentedFile) store).1 = .ok 1 := by
        simpa [scanned, built, Except.toOption] using seen
      exact ⟨store, g, _, rfl, built, facts.1, Prod.ext facts.2 rfl, scanned_text store scanned,
        torn, damaged, fun count after attached => torn (attached_text g store count after attached)⟩

end Source
end TaskRunner
