import TaskRunner.Proofs.Execution.Procedure

/-! The way that visits take through a graph, without regard to what is done on it. Nodes are entered
and left, and which ones depends on nothing but the edges and the marks at the start. A way that is
broken off leaves marks, and the way from those marks leaves the nodes that were missing, in the same
order. -/

namespace TaskRunner
open Relation

abbrev Marks := Nat → Bool

def Marks.adding (marks : Marks) (ids : List Nat) : Marks := fun id => marks id || ids.contains id

namespace Marks

variable {marks : Marks}

theorem adding_eq_true {ids : List Nat} {id : Nat} :
    marks.adding ids id = true ↔ marks id = true ∨ id ∈ ids := by
  simp [adding]

theorem adding_nil : marks.adding [] = marks := by
  funext id
  simp [adding]

theorem adding_append (first second : List Nat) :
    marks.adding (first ++ second) = (marks.adding first).adding second := by
  funext id
  simp [adding, Bool.or_assoc]

theorem adding_of_marked {ids : List Nat} {id : Nat} (marked : marks id = true) :
    marks.adding ids id = true := adding_eq_true.mpr (.inl marked)

end Marks

/-- A visit enters a node, visits its children, and leaves it with the actions of its task. -/
inductive Move where
  | enter (id : Nat)
  | leave (id : Nat)
  deriving DecidableEq, Repr

namespace Move

def entered? : Move → Option Nat
  | .enter id => some id
  | .leave _ => none

def left? : Move → Option Nat
  | .enter _ => none
  | .leave id => some id

def entries (moves : List Move) : List Nat := moves.filterMap entered?

def exits (moves : List Move) : List Nat := moves.filterMap left?

def pending (moves : List Move) : List Nat := (entries moves).filter fun id => id ∉ exits moves

@[simp] theorem exits_nil : exits [] = [] := rfl

@[simp] theorem exits_enter (id : Nat) (moves : List Move) :
    exits (.enter id :: moves) = exits moves := rfl

@[simp] theorem exits_leave (id : Nat) (moves : List Move) :
    exits (.leave id :: moves) = id :: exits moves := rfl

@[simp] theorem exits_append (first second : List Move) :
    exits (first ++ second) = exits first ++ exits second := List.filterMap_append

@[simp] theorem entries_nil : entries [] = [] := rfl

@[simp] theorem entries_enter (id : Nat) (moves : List Move) :
    entries (.enter id :: moves) = id :: entries moves := rfl

@[simp] theorem entries_leave (id : Nat) (moves : List Move) :
    entries (.leave id :: moves) = entries moves := rfl

@[simp] theorem entries_append (first second : List Move) :
    entries (first ++ second) = entries first ++ entries second := List.filterMap_append

end Move

open Move

theorem append_cons_cases {α : Type} {first front second back : List α} {middle a : α}
    (split : first ++ middle :: second = front ++ a :: back) :
    (∃ rest, first = front ++ a :: rest) ∨ (front = first ∧ a = middle) ∨
      ∃ rest, front = first ++ middle :: rest ∧ second = rest ++ a :: back := by
  rcases List.append_eq_append_iff.mp split with ⟨rest, rfl, later⟩ | ⟨rest, rfl, later⟩
  all_goals cases rest with
  | nil =>
    cases later
    exact .inr (.inl ⟨by simp, rfl⟩)
  | cons other rest => ?_
  · obtain ⟨rfl, later'⟩ := List.cons_eq_cons.mp later
    exact .inr (.inr ⟨rest, rfl, later'⟩)
  · obtain ⟨rfl, _⟩ := List.cons_eq_cons.mp later
    exact .inl ⟨rest, rfl⟩

/-- Visits to these nodes in turn. A node that is marked is passed over; any other is entered, left
after visits to its children, and marked from then on. -/
inductive Walk (g : Graph) : Marks → List Nat → List Move → Prop
  | done {marks : Marks} : Walk g marks [] []
  | skip {marks : Marks} {id : Nat} {ids : List Nat} {moves : List Move}
      (marked : marks id = true) (later : Walk g marks ids moves) : Walk g marks (id :: ids) moves
  | visit {marks : Marks} {id : Nat} {ids : List Nat} {below moves : List Move}
      (unmarked : marks id = false) (children : Walk g marks (g.children id) below)
      (later : Walk g (marks.adding (exits below ++ [id])) ids moves) :
      Walk g marks (id :: ids) (.enter id :: below ++ .leave id :: moves)

namespace Walk

variable {g h : Graph} {marks : Marks} {ids : List Nat} {moves : List Move}

theorem of_shape (shape : g.unmarked = h.unmarked) (walk : Walk g marks ids moves) :
    Walk h marks ids moves := by
  induction walk with
  | done => exact .done
  | skip marked _ ih => exact .skip marked ih
  | @visit marks id _ _ _ unmarked _ _ children later =>
    rw [Graph.children_of_shape shape] at children
    exact .visit unmarked children later

theorem exists_of_each (each : ∀ id ∈ ids, ∀ marks, ∃ below, Walk g marks (g.children id) below)
    (marks : Marks) : ∃ moves, Walk g marks ids moves := by
  induction ids generalizing marks with
  | nil => exact ⟨[], .done⟩
  | cons id ids ih =>
    have rest := ih fun other member => each other (List.mem_cons_of_mem _ member)
    cases marked : marks id with
    | true =>
      obtain ⟨moves, later⟩ := rest marks
      exact ⟨moves, .skip marked later⟩
    | false =>
      obtain ⟨below, children⟩ := each id List.mem_cons_self marks
      obtain ⟨moves, later⟩ := rest (marks.adding (exits below ++ [id]))
      exact ⟨_, .visit marked children later⟩

theorem exists_of_founded (founded : g.Founded) (marks : Marks) (ids : List Nat) :
    ∃ moves, Walk g marks ids moves := by
  have each : ∀ id, ∀ marks, ∃ below, Walk g marks (g.children id) below := by
    intro id
    induction id using founded.induction with
    | _ id ih => exact exists_of_each ih
  exact exists_of_each (fun id _ => each id) marks

theorem marked_of_mem (walk : Walk g marks ids moves) {id : Nat} (member : id ∈ ids) :
    marks.adding (exits moves) id = true := by
  induction walk with
  | done => cases member
  | skip marked _ ih =>
    rcases List.mem_cons.mp member with rfl | later
    · exact Marks.adding_of_marked marked
    · exact ih later
  | @visit marks first _ below moves _ _ _ _ ih =>
    have exits_eq : exits (.enter first :: below ++ .leave first :: moves) =
        exits below ++ [first] ++ exits moves := by simp
    rw [exits_eq, Marks.adding_append]
    rcases List.mem_cons.mp member with rfl | later
    · exact Marks.adding_of_marked (Marks.adding_eq_true.mpr (.inr (by simp)))
    · exact ih later

theorem mem_entries_iff (walk : Walk g marks ids moves) (id : Nat) :
    id ∈ entries moves ↔ id ∈ exits moves := by
  induction walk with
  | done => exact Iff.rfl
  | skip _ _ ih => exact ih
  | visit _ _ _ below_ih later_ih =>
    simp only [List.cons_append, entries_enter, entries_append, entries_leave, exits_enter,
      exits_append, exits_leave, List.mem_cons, List.mem_append, below_ih, later_ih]
    exact or_left_comm

theorem unmarked_of_exit (walk : Walk g marks ids moves) {id : Nat} (left : id ∈ exits moves) :
    marks id = false := by
  induction walk with
  | done => cases left
  | skip _ _ ih => exact ih left
  | @visit marks first _ below moves unmarked _ _ below_ih later_ih =>
    simp only [List.cons_append, exits_enter, exits_append, exits_leave, List.mem_append,
      List.mem_cons] at left
    rcases left with early | rfl | late
    · exact below_ih early
    · exact unmarked
    · have unmarked_later := later_ih late
      rw [Marks.adding, Bool.or_eq_false_iff] at unmarked_later
      exact unmarked_later.1

theorem path_of_exit (walk : Walk g marks ids moves) {id : Nat} (left : id ∈ exits moves) :
    ∃ first ∈ ids, ReflTransGen g.Edge first id := by
  induction walk with
  | done => cases left
  | skip _ _ ih =>
    obtain ⟨first, member, path⟩ := ih left
    exact ⟨first, List.mem_cons_of_mem _ member, path⟩
  | @visit marks first _ below moves _ _ _ below_ih later_ih =>
    simp only [List.cons_append, exits_enter, exits_append, exits_leave, List.mem_append,
      List.mem_cons] at left
    rcases left with early | rfl | late
    · obtain ⟨child, edge, path⟩ := below_ih early
      exact ⟨first, List.mem_cons_self, .head edge path⟩
    · exact ⟨_, List.mem_cons_self, .refl⟩
    · obtain ⟨other, member, path⟩ := later_ih late
      exact ⟨other, List.mem_cons_of_mem _ member, path⟩

theorem not_mem_of_exit {before : List Nat} (walk : Walk g (marks.adding before) ids moves) {id : Nat}
    (left : id ∈ exits moves) : id ∉ before := by
  intro early
  have unmarked := walk.unmarked_of_exit left
  rw [Marks.adding_eq_true.mpr (.inr early)] at unmarked
  cases unmarked

theorem not_mem_exits_below (acyclic : g.Acyclic) {id : Nat} {below : List Move}
    (walk : Walk g marks (g.children id) below) : id ∉ exits below := by
  intro left
  -- A node that was left below itself would close a loop.
  obtain ⟨child, edge, path⟩ := walk.path_of_exit left
  exact acyclic id (TransGen.head' edge path)

theorem nodup_exits (acyclic : g.Acyclic) (walk : Walk g marks ids moves) : (exits moves).Nodup := by
  induction walk with
  | done => exact .nil
  | skip _ _ ih => exact ih
  | @visit marks id _ below moves _ children later below_ih later_ih =>
    have first : (exits below ++ [id]).Nodup := by
      rw [← List.concat_eq_append, List.nodup_concat]
      exact ⟨children.not_mem_exits_below acyclic, below_ih⟩
    have all : exits (.enter id :: below ++ .leave id :: moves) =
        exits below ++ [id] ++ exits moves := by simp
    rw [all, List.nodup_append']
    exact ⟨first, later_ih, fun other early late => later.not_mem_of_exit late early⟩

/-- Behind its children a node is left, unless they carried a mark before. -/
theorem behind_children (walk : Walk g marks ids moves) {front back : List Nat} {id child : Nat}
    (split : exits moves = front ++ id :: back) (edge : g.Edge id child) :
    marks child = true ∨ child ∈ front := by
  induction walk generalizing front back with
  | done => simp at split
  | skip _ _ ih => exact ih split
  | @visit marks first _ below moves _ children _ below_ih later_ih =>
    have all : exits (.enter first :: below ++ .leave first :: moves) =
        exits below ++ first :: exits moves := by simp
    rw [all] at split
    rcases append_cons_cases split with ⟨rest, early⟩ | ⟨rfl, rfl⟩ | ⟨rest, rfl, late⟩
    · exact below_ih early
    · exact Marks.adding_eq_true.mp (children.marked_of_mem edge)
    · have marked := later_ih late
      rw [Marks.adding_eq_true] at marked
      simpa [or_assoc] using marked

theorem resume_below (acyclic : g.Acyclic) {id : Nat} {below : List Move} {early : List Nat}
    (unmarked : marks id = false) (children : Walk g marks (g.children id) below)
    (later : Walk g (marks.adding (exits below ++ [id])) ids moves)
    (resumed : ∃ rest, Walk g (marks.adding early) (g.children id) rest ∧
      exits below = early ++ exits rest) :
    ∃ rest, Walk g (marks.adding early) (id :: ids) rest ∧
      exits below ++ id :: exits moves = early ++ exits rest := by
  obtain ⟨rest, children', split⟩ := resumed
  have unmarked_later : marks.adding early id = false := by
    have absent := children.not_mem_exits_below acyclic
    rw [split, List.mem_append, not_or] at absent
    rw [Bool.eq_false_iff, Ne, Marks.adding_eq_true, not_or]
    exact ⟨Bool.eq_false_iff.mp unmarked, absent.1⟩
  have later' : Walk g ((marks.adding early).adding (exits rest ++ [id])) ids moves := by
    rwa [← Marks.adding_append, ← List.append_assoc, ← split]
  refine ⟨_, .visit unmarked_later children' later', ?_⟩
  simp [split]

/-- From the marks that a way leaves when it is broken off, there is a way that leaves what was
missing. -/
theorem resume (acyclic : g.Acyclic) (walk : Walk g marks ids moves) {early : List Nat}
    (begun : early <+: exits moves) :
    ∃ rest, Walk g (marks.adding early) ids rest ∧ exits moves = early ++ exits rest := by
  induction walk generalizing early with
  | done =>
    obtain rfl := List.prefix_nil.mp begun
    exact ⟨[], .done, rfl⟩
  | skip marked _ ih =>
    obtain ⟨rest, later, split⟩ := ih begun
    exact ⟨rest, .skip (Marks.adding_of_marked marked) later, split⟩
  | @visit marks id ids below moves unmarked children later below_ih later_ih =>
    have all : exits (.enter id :: below ++ .leave id :: moves) =
        exits below ++ id :: exits moves := by simp
    rw [all] at begun ⊢
    obtain ⟨missing, broken⟩ := begun
    rcases List.append_eq_append_iff.mp broken with ⟨rest, split, _⟩ | ⟨rest, rfl, split⟩
    · exact resume_below acyclic unmarked children later (below_ih ⟨rest, split.symm⟩)
    · cases rest with
      | nil =>
        rw [List.append_nil]
        exact resume_below acyclic unmarked children later (below_ih (List.prefix_refl _))
      | cons first early =>
        obtain ⟨rfl, left⟩ := List.cons_eq_cons.mp split
        obtain ⟨rest, later', left'⟩ := later_ih ⟨missing, left.symm⟩
        rw [← Marks.adding_append, List.append_assoc] at later'
        refine ⟨rest, .skip (Marks.adding_eq_true.mpr (.inr (by simp))) later', ?_⟩
        rw [left', List.append_assoc]
        rfl

/-! Where a way is broken off, the nodes that were entered and not left lead down to that place. -/

theorem pending_enter {id : Nat} (absent : id ∉ exits moves) :
    pending (.enter id :: moves) = id :: pending moves := by
  unfold pending
  rw [entries_enter, exits_enter, List.filter_cons_of_pos (by simpa using absent)]

theorem pending_append {first second : List Move} (complete : ∀ id ∈ entries first, id ∈ exits first)
    (apart : ∀ id ∈ entries second, id ∉ exits first) :
    pending (first ++ second) = pending second := by
  unfold pending
  rw [entries_append, List.filter_append, exits_append]
  have nothing : (entries first).filter (fun id => id ∉ exits first ++ exits second) = [] := by
    rw [List.filter_eq_nil_iff]
    intro id member
    simp [complete id member]
  rw [nothing, List.nil_append]
  apply List.filter_congr
  intro id member
  simp [apart id member]

theorem pending_eq_nil (walk : Walk g marks ids moves) : pending moves = [] := by
  have complete := pending_append (fun id => (walk.mem_entries_iff id).mp)
    (show ∀ id ∈ entries [], id ∉ exits moves from nofun)
  rwa [List.append_nil] at complete

theorem pending_behind {id : Nat} {below rest : List Move}
    (children : Walk g marks (g.children id) below)
    (later : Walk g (marks.adding (exits below ++ [id])) ids moves) (part : rest <+: moves) :
    pending (.enter id :: (below ++ .leave id :: rest)) = pending rest := by
  have parts : .enter id :: (below ++ .leave id :: rest) =
      (.enter id :: below ++ [.leave id]) ++ rest := by simp
  rw [parts]
  apply pending_append
  · intro other
    simp [children.mem_entries_iff, or_comm]
  · intro other entered left
    have late : other ∈ exits moves :=
      (later.mem_entries_iff other).mp ((part.filterMap entered?).subset entered)
    exact later.not_mem_of_exit late (by simpa using left)

/-- What was entered and not left is a path to the node that is about to be left. -/
theorem leads_pending (acyclic : g.Acyclic) (walk : Walk g marks ids moves)
    {front back : List Move} {last : Nat} (split : moves = front ++ .leave last :: back) :
    ∃ first ∈ ids, (pending front).head? = some first ∧ (pending front).getLast? = some last ∧
      (pending front).IsChain g.Edge := by
  induction walk generalizing front back with
  | done => simp at split
  | skip _ _ ih =>
    obtain ⟨first, member, leads⟩ := ih split
    exact ⟨first, List.mem_cons_of_mem _ member, leads⟩
  | @visit marks id ids below moves _ children later below_ih later_ih =>
    cases front with
    | nil => cases split
    | cons move front =>
      obtain ⟨rfl, split'⟩ := List.cons_eq_cons.mp split
      have absent := children.not_mem_exits_below acyclic
      -- The way ends below this node, at it, or in a later visit.
      rcases append_cons_cases split' with ⟨rest, within⟩ | ⟨rfl, same⟩ | ⟨rest, rfl, behind⟩
      · obtain ⟨child, edge, head, last_eq, linked⟩ := below_ih within
        rw [within, exits_append, List.mem_append, not_or] at absent
        rw [pending_enter absent.1]
        refine ⟨id, List.mem_cons_self, rfl, ?_, List.isChain_cons.mpr ⟨fun other first => ?_, linked⟩⟩
        · rw [List.getLast?_cons, last_eq]
          rfl
        · obtain rfl := Option.some.inj (head.symm.trans first)
          exact edge
      · cases same
        rw [pending_enter absent, children.pending_eq_nil]
        exact ⟨_, List.mem_cons_self, rfl, rfl, .singleton _⟩
      · obtain ⟨first, member, leads⟩ := later_ih behind
        rw [pending_behind children later ⟨_, behind.symm⟩]
        exact ⟨first, List.mem_cons_of_mem _ member, leads⟩

end Walk
end TaskRunner
