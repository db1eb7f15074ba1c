import TaskRunner.Event

/-! The notices, letter by letter. A name in bold stands between the sequence that opens the style
and the one that ends all styles. A name can have such an end inside; the style is then opened again
right behind it, which the characters up to that place decide. -/

namespace TaskRunner

namespace Style

def reset : List Char := ['\x1b', '[', '0', 'm']

/-- These characters, with the opening behind every place up to which they end with a reset. -/
def reopened (opening chars : List Char) : List Char :=
  chars.zipIdx.flatMap fun entry =>
    entry.1 :: if reset <:+ chars.take (entry.2 + 1) then opening else []

/-! The same behind a beginning of the text. -/

def reopenedAfter (opening before rest : List Char) : List Char :=
  (rest.zipIdx before.length).flatMap fun entry =>
    entry.1 :: if reset <:+ (before ++ rest).take (entry.2 + 1) then opening else []

def Parted (before rest : List Char) : Prop :=
  ∀ first second, rest = first ++ second → first ≠ [] → reset <:+ before ++ first → reset <:+ first

variable {opening before rest : List Char} {c : Char}

theorem reopenedAfter_cons :
    reopenedAfter opening before (c :: rest) =
      c :: (if reset <:+ before ++ [c] then opening else []) ++
        reopenedAfter opening (before ++ [c]) rest := by
  have upTo : (before ++ c :: rest).take (before.length + 1) = before ++ [c] := by
    rw [List.append_cons]
    exact List.take_left' List.length_append
  unfold reopenedAfter
  rw [List.zipIdx_cons, List.flatMap_cons, upTo, List.append_assoc, List.length_append]
  rfl

theorem not_reset_suffix (other : c ≠ 'm') : ¬ reset <:+ before ++ [c] := by
  rintro ⟨front, whole⟩
  have last := congrArg List.getLast? whole
  simp only [reset, List.getLast?_append, List.getLast?_singleton] at last
  exact other (Option.some.inj last).symm

theorem Parted.cons (parted : Parted before (c :: rest)) (plain : ¬ reset <+: c :: rest) :
    Parted (before ++ [c]) rest := by
  rintro first second rfl filled ended
  rw [List.append_assoc] at ended
  rcases List.suffix_cons_iff.mp (parted (c :: first) second rfl nofun ended) with whole | inside
  · exact absurd ⟨second, whole ▸ rfl⟩ plain
  · exact inside

/-- Two resets do not overlap, so the next one lies behind this one. -/
theorem Parted.behind_reset (parted : Parted before (reset ++ rest)) :
    Parted (before ++ reset) rest := by
  rintro first second rfl filled ended
  rw [List.append_assoc] at ended
  have apart := parted (reset ++ first) second (List.append_assoc ..).symm nofun ended
  match first with
  | [] => contradiction
  | [a] | [a, b] | [a, b, c] => simp [reset, List.suffix_cons_iff] at apart
  | a :: b :: c :: d :: tail =>
    exact List.suffix_of_suffix_length_le apart (List.suffix_append ..) (Nat.le_add_left ..)

theorem resume_eq_reopenedAfter (style : Style) (parted : Parted before rest) :
    style.resume rest = reopenedAfter style.opening before rest := by
  fun_induction Style.resume style rest generalizing before with
  | case1 => rfl
  | case2 rest ih =>
    have later := ih (Parted.behind_reset parted)
    have same : before ++ ['\x1b'] ++ ['['] ++ ['0'] ++ ['m'] = before ++ reset := by simp [reset]
    rw [reopenedAfter_cons, reopenedAfter_cons, reopenedAfter_cons, reopenedAfter_cons,
      if_neg (not_reset_suffix (by decide)), if_neg (not_reset_suffix (by decide)),
      if_neg (not_reset_suffix (by decide)), same, if_pos (List.suffix_append ..), ← later]
    rfl
  | case3 c rest plain ih =>
    have unended : ¬ reset <:+ before ++ [c] := by
      intro ended
      have short := (parted [c] rest rfl nofun ended).length_le
      cases Nat.le_of_succ_le_succ short
    have unbegun : ¬ reset <+: c :: rest := by
      rintro ⟨later, whole⟩
      obtain ⟨rfl, rest_eq⟩ := List.cons_eq_cons.mp whole
      exact plain later rfl rest_eq.symm
    rw [reopenedAfter_cons, if_neg unended, ← ih (parted.cons unbegun)]
    rfl

theorem resume_eq_reopened (style : Style) (chars : List Char) :
    style.resume chars = reopened style.opening chars := by
  have parted : Parted [] chars := fun _ _ _ _ ended => ended
  exact style.resume_eq_reopenedAfter parted

end Style

def boldName (color : Bool) (name : String) : String :=
  if color then
    "\x1b[1m" ++ String.ofList (Style.reopened "\x1b[1m".toList name.toList) ++ "\x1b[0m"
  else name

def startedNotice (color : Bool) (name : String) : String :=
  "\"" ++ boldName color name ++ "\" task is started.\n"

def finishedNotice (color : Bool) (name : String) : String :=
  (if color then "\x1b[32m✓\x1b[0m" else "✓") ++
    (" \"" ++ boldName color name ++ "\" task is finished.\n")

theorem apply_bold (color : Bool) (name : String) :
    Style.bold.apply color name = boldName color name := by
  cases color with
  | false => rfl
  | true =>
    have opening : Style.bold.opening = "\x1b[1m".toList := by decide
    have ending : [Style.escape, '[', '0', 'm'] = "\x1b[0m".toList := by decide
    rw [Style.apply, if_pos rfl, boldName, if_pos rfl, Style.resume_eq_reopened, ending, opening,
      String.ofList_append, String.ofList_append, String.ofList_toList, String.ofList_toList]

example : Style.bold.apply true "a\x1b[0mb" = "\x1b[1ma\x1b[0m\x1b[1mb\x1b[0m" := by decide

theorem render_started (color : Bool) (name : String) :
    (Event.started name).render color = (startedNotice color name).toUTF8.data.toList := by
  rw [Event.render, apply_bold]
  rfl

theorem render_finished (color : Bool) (name : String) :
    (Event.finished name).render color = (finishedNotice color name).toUTF8.data.toList := by
  have tick : Style.green.apply color "✓" = if color then "\x1b[32m✓\x1b[0m" else "✓" := by
    cases color <;> decide
  rw [Event.render, apply_bold, tick]
  rfl

end TaskRunner
