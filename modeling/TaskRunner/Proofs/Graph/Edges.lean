import TaskRunner.Proofs.Graph.Closure

/-! Edges between the nodes of a closure are the dependencies between their names, step by step and
along whole paths. -/

namespace TaskRunner.Graph
open DependencyMap Relation

def Edge (g : Graph) (parent child : Nat) : Prop := child ∈ g.children parent

def Acyclic (g : Graph) : Prop := ∀ id, ¬ TransGen g.Edge id id

variable {store : Store} {root : String} {g h : Graph}

theorem edge_of_shape (shape : g.unmarked = h.unmarked) : g.Edge = h.Edge := by
  funext parent child
  rw [Edge, Edge, children_of_shape shape]

theorem acyclic_of_shape (shape : g.unmarked = h.unmarked) : g.Acyclic ↔ h.Acyclic := by
  rw [Acyclic, Acyclic, edge_of_shape shape]

namespace Closure

theorem lt_size_of_edge (closed : Closure store root g) {parent child : Nat}
    (edge : g.Edge parent child) : child < g.size :=
  (closed.expanded parent (lt_size_of_mem_children edge)).2 child edge

theorem depends_of_edge (closed : Closure store root g) {parent child : Nat}
    (edge : g.Edge parent child) :
    store.dependencyMap.Depends (g.name parent) (g.name child) :=
  ⟨_, (closed.expanded parent (lt_size_of_mem_children edge)).1, List.mem_map_of_mem edge⟩

theorem edge_of_depends (closed : Closure store root g) {parent : Nat} {name : String}
    (inside : parent < g.size) (depends : store.dependencyMap.Depends (g.name parent) name) :
    ∃ child, g.Edge parent child ∧ g.name child = name := by
  obtain ⟨dependencies, listed, member⟩ := depends
  rw [(closed.expanded parent inside).1] at listed
  cases listed
  exact List.mem_map.mp member

theorem path_of_reaches (closed : Closure store root g) {first : Nat} {name : String}
    (inside : first < g.size) (reached : store.dependencyMap.Reaches (g.name first) name) :
    ∃ last, last < g.size ∧ ReflTransGen g.Edge first last ∧ g.name last = name := by
  induction reached with
  | refl => exact ⟨first, inside, .refl, rfl⟩
  | tail _ depends ih =>
    obtain ⟨middle, within, path, rfl⟩ := ih
    obtain ⟨last, edge, named⟩ := closed.edge_of_depends within depends
    exact ⟨last, closed.lt_size_of_edge edge, path.tail edge, named⟩

theorem path_from_root (closed : Closure store root g) {id : Nat} (inside : id < g.size) :
    ReflTransGen g.Edge 0 id := by
  have reached := closed.reached id inside
  rw [← closed.name_root] at reached
  obtain ⟨last, within, path, named⟩ := closed.path_of_reaches closed.size_pos reached
  rwa [closed.name_injective within inside named] at path

theorem lt_size_of_path (closed : Closure store root g) {first last : Nat}
    (inside : first < g.size) (path : ReflTransGen g.Edge first last) : last < g.size := by
  cases path with
  | refl => exact inside
  | tail _ edge => exact closed.lt_size_of_edge edge

/-- The nodes are the names that the root reaches. -/
theorem exists_name_iff (closed : Closure store root g) {name : String} :
    (∃ id, id < g.size ∧ g.name id = name) ↔ store.dependencyMap.Reaches root name := by
  constructor
  · rintro ⟨id, inside, rfl⟩
    exact closed.reached id inside
  · intro reached
    rw [← closed.name_root] at reached
    obtain ⟨id, inside, _, named⟩ := closed.path_of_reaches closed.size_pos reached
    exact ⟨id, inside, named⟩

theorem contains_iff (closed : Closure store root g) {name : String} :
    g.contains name = true ↔ store.dependencyMap.Reaches root name := by
  rw [← closed.exists_name_iff, contains, Std.ExtTreeMap.contains_eq_isSome_getElem?,
    Option.isSome_iff_exists]
  exact exists_congr fun id => closed.idOf?_eq_some name id

theorem circular_of_loop (closed : Closure store root g) {id : Nat}
    (loop : TransGen g.Edge id id) : store.dependencyMap.Circular (g.name id) :=
  loop.lift g.name fun _ _ => closed.depends_of_edge

theorem loop_of_circular (closed : Closure store root g) {id : Nat} (inside : id < g.size)
    (circular : store.dependencyMap.Circular (g.name id)) : TransGen g.Edge id id := by
  obtain ⟨name, depends, reached⟩ := TransGen.head'_iff.mp circular
  obtain ⟨child, edge, rfl⟩ := closed.edge_of_depends inside depends
  obtain ⟨last, within, path, named⟩ :=
    closed.path_of_reaches (closed.lt_size_of_edge edge) reached
  rw [closed.name_injective within inside named] at path
  exact .head' edge path

theorem acyclic_iff (closed : Closure store root g) :
    g.Acyclic ↔ ∀ task, store.dependencyMap.Reaches root task →
      ¬ store.dependencyMap.Circular task := by
  constructor
  · intro acyclic task reached circular
    obtain ⟨id, inside, rfl⟩ := closed.exists_name_iff.mpr reached
    exact acyclic id (closed.loop_of_circular inside circular)
  · intro clear id loop
    obtain ⟨child, edge, _⟩ := TransGen.head'_iff.mp loop
    exact clear _ (closed.reached id (lt_size_of_mem_children edge)) (closed.circular_of_loop loop)

end Closure
end TaskRunner.Graph
