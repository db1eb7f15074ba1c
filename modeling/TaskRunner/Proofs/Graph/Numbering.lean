import TaskRunner.Graph.Build
import TaskRunner.Proofs.Dependency
import TaskRunner.Proofs.Graph.Nodes

/-! The numbers of the nodes while a graph grows. Nodes are only ever added behind the others, every
name has one number, and this holds from the first node on. -/

namespace TaskRunner.Graph

variable {store : Store} {root : String} {g h : Graph}

theorem single_eq_addNode (name : String) :
    single name = addNode ⟨#[], ∅, 0⟩ name := rfl

theorem size_addNode (g : Graph) (name : String) : (g.addNode name).size = g.size + 1 :=
  Array.size_push _

theorem getElem?_addNode (g : Graph) (name : String) (id : Nat) :
    (g.addNode name).nodes[id]? = if id = g.size then some { name } else g.nodes[id]? :=
  Array.getElem?_push

theorem name_addNode (g : Graph) (name : String) (id : Nat) :
    (g.addNode name).name id = if id = g.size then name else g.name id := by
  rw [name_eq, name_eq, getElem?_addNode]
  split <;> rfl

theorem idOf?_addNode (g : Graph) (name other : String) :
    (g.addNode name).idOf? other = if name = other then some g.size else g.idOf? other := by
  unfold addNode idOf?
  simp only [Std.ExtTreeMap.getElem?_insert, Std.compare_eq_iff_eq]

theorem unmarked_addNode (g : Graph) (name : String) :
    (g.addNode name).unmarked = g.unmarked.addNode name := by
  unfold addNode
  rw [size_unmarked]
  unfold unmarked
  rw [Array.map_push]

/-- The nodes of one graph stand in another as they are, in front of all others. -/
structure Extends (g h : Graph) : Prop where
  size_le : g.size ≤ h.size
  name_eq : ∀ id, id < g.size → h.name id = g.name id
  children_eq : ∀ id, id < g.size → h.children id = g.children id

theorem Extends.refl (g : Graph) : g.Extends g := ⟨Nat.le_refl _, fun _ _ => rfl, fun _ _ => rfl⟩

theorem Extends.trans {k : Graph} (first : g.Extends h) (second : h.Extends k) : g.Extends k where
  size_le := Nat.le_trans first.size_le second.size_le
  name_eq id inside :=
    (second.name_eq id (Nat.lt_of_lt_of_le inside first.size_le)).trans (first.name_eq id inside)
  children_eq id inside :=
    (second.children_eq id (Nat.lt_of_lt_of_le inside first.size_le)).trans
      (first.children_eq id inside)

theorem extends_addNode (g : Graph) (name : String) : g.Extends (g.addNode name) where
  size_le := by rw [size_addNode]; exact Nat.le_succ _
  name_eq id inside := by rw [name_addNode, if_neg (Nat.ne_of_lt inside)]
  children_eq id inside := by
    rw [Graph.children_eq, Graph.children_eq, getElem?_addNode, if_neg (Nat.ne_of_lt inside)]

/-- Every node is a declared task that the root reaches, no task has two nodes, and the index knows
all of them. -/
structure Numbering (store : Store) (root : String) (g : Graph) : Prop where
  root_eq : g.root = 0
  size_pos : 0 < g.size
  name_root : g.name 0 = root
  idOf?_eq_some : ∀ name id, g.idOf? name = some id ↔ id < g.size ∧ g.name id = name
  declared : ∀ id, id < g.size → store.contains (g.name id) = true
  reached : ∀ id, id < g.size → store.dependencyMap.Reaches root (g.name id)

theorem Numbering.name_injective (numbered : Numbering store root g) {first second : Nat}
    (inside : first < g.size) (inside' : second < g.size) (same : g.name first = g.name second) :
    first = second := by
  have found := (numbered.idOf?_eq_some _ _).mpr ⟨inside, same⟩
  have found' := (numbered.idOf?_eq_some _ _).mpr ⟨inside', rfl⟩
  exact Option.some.inj (found.symm.trans found')

theorem Numbering.congr (numbered : Numbering store root g) (roots : g.root = h.root)
    (sizes : g.size = h.size) (names : g.name = h.name)
    (ids : ∀ name, g.idOf? name = h.idOf? name) : Numbering store root h where
  root_eq := by rw [← roots, numbered.root_eq]
  size_pos := by rw [← sizes]; exact numbered.size_pos
  name_root := by rw [← names, numbered.name_root]
  idOf?_eq_some name id := by
    rw [← ids, ← sizes, ← names]
    exact numbered.idOf?_eq_some name id
  declared id inside := by
    rw [← sizes] at inside
    rw [← names]
    exact numbered.declared id inside
  reached id inside := by
    rw [← sizes] at inside
    rw [← names]
    exact numbered.reached id inside

theorem Numbering.of_shape (shape : g.unmarked = h.unmarked) (numbered : Numbering store root g) :
    Numbering store root h :=
  numbered.congr (root_of_shape shape) (size_of_shape shape) (names_of_shape shape)
    (idOf?_of_shape shape)

/-- A graph that is being built carries no marks. -/
structure Growing (store : Store) (root : String) (g : Graph) : Prop
    extends Numbering store root g where
  fresh : g.unmarked = g

theorem growing_single (declared : store.contains root = true) :
    Growing store root (single root) where
  root_eq := rfl
  size_pos := Nat.one_pos
  name_root := rfl
  idOf?_eq_some name id := by
    have nothing : (⟨#[], ∅, 0⟩ : Graph).idOf? name = none := Std.ExtTreeMap.getElem?_empty
    have inside : id < (single root).size ↔ id = 0 := Nat.lt_one_iff
    rw [single_eq_addNode, idOf?_addNode, nothing, ← single_eq_addNode, inside]
    by_cases same : root = name
    · simp only [if_pos same, Option.some.injEq]
      exact ⟨fun zero => ⟨zero.symm, by subst zero; exact same⟩, fun zero => zero.1.symm⟩
    · simp only [same, ↓reduceIte, reduceCtorEq, false_iff, not_and]
      intro zero named
      subst zero
      exact same named
  declared id inside := by
    obtain rfl := Nat.lt_one_iff.mp inside
    exact declared
  reached id inside := by
    obtain rfl := Nat.lt_one_iff.mp inside
    exact .self _ _
  fresh := by simp [single, unmarked]

theorem Growing.addNode {name : String} (growing : Growing store root g)
    (absent : g.idOf? name = none) (declared : store.contains name = true)
    (reached : store.dependencyMap.Reaches root name) :
    Growing store root (g.addNode name) where
  root_eq := growing.root_eq
  size_pos := by rw [size_addNode]; exact Nat.succ_pos _
  name_root := by
    rw [(extends_addNode g name).name_eq 0 growing.size_pos, growing.name_root]
  idOf?_eq_some other id := by
    have old := growing.idOf?_eq_some other id
    rw [idOf?_addNode, name_addNode, size_addNode]
    by_cases same : name = other
    · subst same
      rw [absent] at old
      by_cases last : id = g.size
      · simp [last]
      · simp only [↓reduceIte, Option.some.injEq, Ne.symm last, last, false_iff]
        intro ⟨inside, named⟩
        exact absurd (old.mpr ⟨by omega, named⟩) (by simp)
    · by_cases last : id = g.size
      · have outside : ¬ g.size < g.size := Nat.lt_irrefl _
        simp [last] at old
        simp [same, last, old]
      · rw [if_neg same, if_neg last, old]
        exact and_congr_left fun _ => by omega
  declared id inside := by
    rw [name_addNode]
    split
    · exact declared
    · exact growing.declared id (by rw [size_addNode] at inside; omega)
  reached id inside := by
    rw [name_addNode]
    split
    · exact reached
    · exact growing.reached id (by rw [size_addNode] at inside; omega)
  fresh := by rw [unmarked_addNode, growing.fresh]

theorem Growing.setChildren (growing : Growing store root g) (id : Nat)
    (children : List Nat) : Growing store root (g.setChildren id children) where
  toNumbering := growing.congr rfl (size_setChildren g id children).symm
    (names_setChildren g id children).symm fun _ => rfl
  fresh := by rw [unmarked_setChildren, growing.fresh]

end TaskRunner.Graph
