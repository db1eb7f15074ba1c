import TaskRunner.Proofs.Graph.Acyclicity

/-! Checks after the first. Marks stay in a graph, and a check does not enter a root that carries
one. So the first check decides, and every later one accepts what it finds, loops included. -/

namespace TaskRunner.Graph
open DependencyMap

variable {store : Store} {root : String} {g : Graph}

def checks : Nat → Graph → List (Except GraphError Unit)
  | 0, _ => []
  | count + 1, g => g.ensureAcyclic.1 :: checks count g.ensureAcyclic.2

theorem ensureAcyclic_of_marked (marked : g.visit g.root ≠ .unvisited) :
    g.ensureAcyclic = (.ok (), g) := by
  have idle : g.search = ⟨g, []⟩ := if_neg marked
  rw [ensureAcyclic, idle, Search.run]
  rfl

theorem marked_ensureAcyclic (closed : Closure store root g) (fresh : g.unmarked = g) :
    g.ensureAcyclic.2.visit g.ensureAcyclic.2.root ≠ .unvisited :=
  (Search.run_induction (fun _ _ => Search.Invariant.step)
    (Search.Invariant.start closed fresh)).1.marked

theorem checks_of_marked (marked : g.visit g.root ≠ .unvisited) (count : Nat) :
    checks count g = List.replicate count (.ok ()) := by
  induction count with
  | zero => rfl
  | succ count ih => rw [checks, ensureAcyclic_of_marked marked, ih, List.replicate_succ]

theorem checks_of_build (built : build root store = .ok g) (count : Nat) :
    checks (count + 1) g = g.ensureAcyclic.1 :: List.replicate count (.ok ()) := by
  rw [checks, checks_of_marked (marked_ensureAcyclic (closure_of_build built)
    (unmarked_of_build built))]

/-- All answers tell whether a task that the root reaches depends on itself just if there is one
answer at most, or no such task. -/
theorem checks_exact_iff (built : build root store = .ok g) (count : Nat) :
    (∀ answer ∈ checks count g, (answer = .ok () ↔ ¬ store.dependencyMap.Loops root)) ↔
      count ≤ 1 ∨ ¬ store.dependencyMap.Loops root := by
  have first := ensureAcyclic_ok_iff built
  cases count with
  | zero => exact iff_of_true nofun (.inl (Nat.zero_le 1))
  | succ count =>
    rw [checks_of_build built]
    constructor
    · intro tells
      cases count with
      | zero => exact .inl (Nat.le_refl 1)
      | succ count =>
        have second : Except.ok () ∈ g.ensureAcyclic.1 :: List.replicate (count + 1) (.ok ()) :=
          List.mem_cons_of_mem _ List.mem_cons_self
        exact .inr ((tells _ second).mp rfl)
    · intro fits answer member
      rcases List.mem_cons.mp member with rfl | later
      · exact first
      · obtain ⟨some, rfl⟩ := List.mem_replicate.mp later
        exact iff_of_true rfl (fits.resolve_left (by omega))

def diamond : Store :=
  .ofDeclarations [⟨"A", ["B", "C"]⟩, ⟨"B", ["D"]⟩, ⟨"C", ["D"]⟩, ⟨"D", []⟩]

theorem checks_exact_iff_diamond :
    ∃ g, build "A" diamond = .ok g ∧
      ∀ answer ∈ checks 3 g, (answer = .ok () ↔ ¬ diamond.dependencyMap.Loops "A") := by
  have answered : (build "A" diamond).map (·.ensureAcyclic.1) = .ok (.ok ()) := by cbv
  obtain ⟨g, built, accepted⟩ := exists_of_build_map answered
  exact ⟨g, built, (checks_exact_iff built 3).mpr (.inr ((ensureAcyclic_ok_iff built).mp accepted))⟩

def selfDependent : Store := .ofDeclarations [⟨"A", ["A"]⟩]

/-- A loop is refused once, and accepted when it is checked again. -/
theorem checks_accept_refused_loop :
    ∃ g, build "A" selfDependent = .ok g ∧
      checks 2 g = [.error (.circularDependency ["A", "A"]), .ok ()] ∧
      ¬ ∀ answer ∈ checks 2 g, (answer = .ok () ↔ ¬ selfDependent.dependencyMap.Loops "A") := by
  have answered : (build "A" selfDependent).map (·.ensureAcyclic.1) =
      .ok (.error (.circularDependency ["A", "A"])) := by cbv
  obtain ⟨g, built, refused⟩ := exists_of_build_map answered
  have answers : checks 2 g = [.error (.circularDependency ["A", "A"]), .ok ()] := by
    rw [checks_of_build built, refused]
    rfl
  refine ⟨g, built, answers, fun tells => ?_⟩
  rw [answers] at tells
  have clear := (tells (.ok ()) (List.mem_cons_of_mem _ List.mem_cons_self)).mp rfl
  cases (tells _ List.mem_cons_self).mpr clear

end TaskRunner.Graph
