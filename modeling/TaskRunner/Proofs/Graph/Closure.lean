import Mathlib.Data.List.Nodup
import Mathlib.Data.List.Perm.Subperm
import TaskRunner.Proofs.Graph.Numbering

/-! The graph that is built for a root is the closure of the root under dependencies: one node for
every name that the root reaches, and below each node the nodes of its dependencies in declared
order. Building fails only on a name that is reached and not declared, and depends on nothing but
what the root reaches. -/

namespace TaskRunner.Graph
open DependencyMap

variable {store : Store} {root : String} {g h : Graph}

theorem Growing.intern {name : String} {id : Nat} (growing : Growing store root g)
    (reached : store.dependencyMap.Reaches root name)
    (interned : g.intern store name = .ok (h, id)) :
    Growing store root h ∧ g.Extends h ∧ id < h.size ∧ h.name id = name := by
  unfold Graph.intern at interned
  split at interned
  next found =>
    cases interned
    exact ⟨growing, .refl g, (growing.idOf?_eq_some name id).mp found⟩
  next fresh =>
    split at interned
    next declared =>
      cases interned
      have inside : g.size < (g.addNode name).size := by
        rw [size_addNode]
        exact Nat.lt_succ_self _
      exact ⟨growing.addNode fresh declared reached, extends_addNode g name, inside,
        by rw [name_addNode, if_pos rfl]⟩
    next => cases interned

theorem intern_error {name : String} {e : GraphError} (failed : g.intern store name = .error e) :
    e = .undeclaredTask name ∧ store.contains name = false := by
  unfold intern at failed
  split at failed
  next => cases failed
  next =>
    split at failed
    next => cases failed
    next undeclared =>
      cases failed
      exact ⟨rfl, Bool.eq_false_iff.mpr undeclared⟩

theorem Growing.internAll {names : List String} {ids : Array Nat} {children : List Nat}
    (growing : Growing store root g)
    (reached : ∀ name ∈ names, store.dependencyMap.Reaches root name)
    (interned : g.internAll store ids names = .ok (h, children)) :
    Growing store root h ∧ g.Extends h ∧ ∃ new, children = ids.toList ++ new ∧
      new.map h.name = names ∧ ∀ id ∈ new, id < h.size := by
  induction names generalizing g ids with
  | nil =>
    cases interned
    exact ⟨growing, .refl _, [], (List.append_nil _).symm, rfl, by simp⟩
  | cons name names ih =>
    unfold Graph.internAll at interned
    split at interned
    next first id found =>
      obtain ⟨growing₁, grown, inside, named⟩ := growing.intern (reached name (by simp)) found
      obtain ⟨growing₂, grown₂, new, split, names_eq, below⟩ :=
        ih growing₁ (fun other member => reached other (List.mem_cons_of_mem _ member)) interned
      refine ⟨growing₂, grown.trans grown₂, id :: new, ?_, ?_, ?_⟩
      · rw [split, Array.toList_push, List.append_assoc]
        rfl
      · rw [List.map_cons, names_eq, grown₂.name_eq id inside, named]
      · intro other member
        rcases List.mem_cons.mp member with same | later
        · exact same ▸ Nat.lt_of_lt_of_le inside grown₂.size_le
        · exact below other later
    next => cases interned

theorem internAll_error {names : List String} {ids : Array Nat} {e : GraphError}
    (failed : g.internAll store ids names = .error e) :
    ∃ name ∈ names, e = .undeclaredTask name ∧ store.contains name = false := by
  induction names generalizing g ids with
  | nil => cases failed
  | cons name names ih =>
    unfold internAll at failed
    split at failed
    next =>
      obtain ⟨other, member, blamed⟩ := ih failed
      exact ⟨other, List.mem_cons_of_mem _ member, blamed⟩
    next found =>
      cases failed
      exact ⟨name, List.mem_cons_self, intern_error found⟩

/-- The children of a node are nodes, and by name they are its dependencies. -/
def Expanded (store : Store) (g : Graph) (id : Nat) : Prop :=
  store.dependencyMap (g.name id) = some ((g.children id).map g.name) ∧
    ∀ child ∈ g.children id, child < g.size

theorem Expanded.extend {id : Nat} (expanded : Expanded store g id) (grown : g.Extends h)
    (inside : id < g.size) : Expanded store h id := by
  obtain ⟨dependencies, below⟩ := expanded
  unfold Expanded
  rw [grown.name_eq id inside, grown.children_eq id inside, dependencies]
  refine ⟨?_, fun child member => Nat.lt_of_lt_of_le (below child member) grown.size_le⟩
  congr 1
  exact List.map_congr_left fun child member => (grown.name_eq child (below child member)).symm

theorem Expanded.setChildren {id other : Nat} {children : List Nat}
    (expanded : Expanded store g other) (apart : id ≠ other) :
    Expanded store (g.setChildren id children) other := by
  obtain ⟨dependencies, below⟩ := expanded
  unfold Expanded
  rw [children_setChildren, if_neg (fun same => apart same.1), names_setChildren, size_setChildren]
  exact ⟨dependencies, below⟩

theorem Growing.expand_cases {id : Nat} (growing : Growing store root g)
    (built : g.expand store id = .ok h) :
    g.size ≤ id ∧ h = g ∨
      id < g.size ∧ ∃ grown children, Growing store root grown ∧ g.Extends grown ∧
        h = grown.setChildren id children ∧
        store.dependencyMap (g.name id) = some (children.map grown.name) ∧
        ∀ child ∈ children, child < grown.size := by
  unfold Graph.expand at built
  split at built
  next inside =>
    split at built
    next => cases built
    next entry found =>
      have dependencies := store.dependencyMap_of_get? found
      have reached : ∀ name ∈ entry.dependencies, store.dependencyMap.Reaches root name :=
        fun name member => (growing.reached id inside).step dependencies member
      split at built
      next grown children interned =>
        cases built
        obtain ⟨growing₁, extended, new, split, names_eq, below⟩ :=
          growing.internAll reached interned
        obtain rfl : children = new := split
        rw [← names_eq] at dependencies
        exact .inr ⟨inside, grown, children, growing₁, extended, rfl, dependencies, below⟩
      next => cases built
  next outside =>
    cases built
    exact .inl ⟨Nat.le_of_not_lt outside, rfl⟩

theorem Growing.expand {id : Nat} (growing : Growing store root g)
    (built : g.expand store id = .ok h) : Growing store root h := by
  rcases growing.expand_cases built with ⟨_, rfl⟩ | ⟨_, _, children, grown, _, rfl, _⟩
  · exact growing
  · exact grown.setChildren id children

theorem Growing.expanded_expand {id : Nat} (growing : Growing store root g)
    (done : ∀ other, other < id → other < g.size → Expanded store g other)
    (built : g.expand store id = .ok h) :
    ∀ other, other < id + 1 → other < h.size → Expanded store h other := by
  rcases growing.expand_cases built with
    ⟨outside, rfl⟩ | ⟨inside, grown, children, _, extended, rfl, dependencies, below⟩
  · exact fun other _ within => done other (by omega) within
  · intro other early _
    by_cases same : id = other
    · subst same
      have within := Nat.lt_of_lt_of_le inside extended.size_le
      unfold Expanded
      rw [children_setChildren, if_pos ⟨rfl, within⟩, names_setChildren, size_setChildren,
        extended.name_eq id inside]
      exact ⟨dependencies, below⟩
    · have before : other < g.size := by omega
      exact ((done other (by omega) before).extend extended before).setChildren same

theorem Growing.expandAll {first count : Nat} (growing : Growing store root g)
    (done : ∀ id, id < first → id < g.size → Expanded store g id)
    (built : g.expandAll store (List.range' first count) = .ok h) :
    Growing store root h ∧ ∀ id, id < first + count → id < h.size → Expanded store h id := by
  induction count generalizing g first with
  | zero =>
    cases built
    exact ⟨growing, done⟩
  | succ count ih =>
    rw [List.range'_succ, Graph.expandAll] at built
    split at built
    next after expanded =>
      have rest := ih (growing.expand expanded) (growing.expanded_expand done expanded) built
      exact ⟨rest.1, fun id early => rest.2 id (by omega)⟩
    next => cases built

theorem Numbering.size_le (numbered : Numbering store root g) : g.size ≤ store.size := by
  have distinct : ((List.range g.size).map g.name).Nodup := by
    apply List.Nodup.map_on _ List.nodup_range
    intro first inside second inside' same
    exact numbered.name_injective (List.mem_range.mp inside) (List.mem_range.mp inside') same
  have declared : (List.range g.size).map g.name ⊆ store.entries.keys := by
    intro name member
    obtain ⟨id, inside, rfl⟩ := List.mem_map.mp member
    have known := numbered.declared id (List.mem_range.mp inside)
    exact Std.ExtTreeMap.mem_keys.mpr (Std.ExtTreeMap.contains_iff_mem.mp known)
  -- Distinct names of declared tasks are no more than there are declarations.
  have fewer := (List.subperm_of_subset distinct declared).length_le
  rwa [List.length_map, List.length_range, Std.ExtTreeMap.length_keys] at fewer

structure Closure (store : Store) (root : String) (g : Graph) : Prop
    extends Numbering store root g where
  expanded : ∀ id, id < g.size → Expanded store g id

theorem build_cases (built : build root store = .ok g) :
    store.contains root = true ∧ (single root).expandAll store (List.range store.size) = .ok g := by
  unfold build at built
  split at built
  next declared => exact ⟨declared, built⟩
  next => cases built

theorem exists_of_build_map {α : Type} {read : Graph → α} {seen : α}
    (observed : (build root store).map read = .ok seen) :
    ∃ g, build root store = .ok g ∧ read g = seen := by
  cases built : build root store with
  | error e =>
    rw [built] at observed
    cases observed
  | ok g =>
    rw [built] at observed
    exact ⟨g, rfl, Except.ok.inj observed⟩

theorem closure_of_build (built : build root store = .ok g) : Closure store root g := by
  obtain ⟨declared, grown⟩ := build_cases built
  rw [List.range_eq_range'] at grown
  obtain ⟨growing, expanded⟩ := (growing_single declared).expandAll (by omega) grown
  have enough := growing.size_le
  exact ⟨growing.toNumbering, fun id inside => expanded id (by omega) inside⟩

theorem unmarked_of_build (built : build root store = .ok g) : g.unmarked = g := by
  obtain ⟨declared, grown⟩ := build_cases built
  rw [List.range_eq_range'] at grown
  exact ((growing_single declared).expandAll (by omega) grown).1.fresh

theorem Closure.of_shape (shape : g.unmarked = h.unmarked) (closed : Closure store root g) :
    Closure store root h := by
  refine ⟨closed.toNumbering.of_shape shape, fun id inside => ?_⟩
  have expanded := closed.expanded id (by rwa [size_of_shape shape])
  rwa [Expanded, children_of_shape shape, size_of_shape shape,
    names_of_shape shape] at expanded

theorem Growing.expand_error {id : Nat} {e : GraphError} (growing : Growing store root g)
    (failed : g.expand store id = .error e) :
    ∃ name, e = .undeclaredTask name ∧ store.dependencyMap.Reaches root name ∧
      store.contains name = false := by
  unfold Graph.expand at failed
  split at failed
  next inside =>
    split at failed
    next missing =>
      have declared := growing.declared id inside
      simp [store.contains_eq, missing] at declared
    next entry found =>
      split at failed
      next => cases failed
      next interned =>
        cases failed
        obtain ⟨name, member, blamed, undeclared⟩ := internAll_error interned
        have dependencies := store.dependencyMap_of_get? found
        exact ⟨name, blamed, (growing.reached id inside).step dependencies member, undeclared⟩
  next => cases failed

theorem Growing.expandAll_error {ids : List Nat} {e : GraphError}
    (growing : Growing store root g) (failed : g.expandAll store ids = .error e) :
    ∃ name, e = .undeclaredTask name ∧ store.dependencyMap.Reaches root name ∧
      store.contains name = false := by
  induction ids generalizing g with
  | nil => cases failed
  | cons id ids ih =>
    unfold Graph.expandAll at failed
    split at failed
    next expanded => exact ih (growing.expand expanded) failed
    next stopped =>
      cases failed
      exact growing.expand_error stopped

theorem build_error {e : GraphError} (failed : build root store = .error e) :
    ∃ name, e = .undeclaredTask name ∧ store.dependencyMap.Reaches root name ∧
      store.contains name = false := by
  unfold build at failed
  split at failed
  next declared => exact (growing_single declared).expandAll_error failed
  next undeclared =>
    cases failed
    exact ⟨root, rfl, .self _ _, Bool.eq_false_iff.mpr undeclared⟩

end TaskRunner.Graph
