import TaskRunner.Graph

/-! What each change of a graph does to what can be read from it. The names and children of the
nodes, their numbers and the root are the shape of a graph; marks do not belong to it. -/

namespace TaskRunner.Graph

theorem name_eq (g : Graph) (id : Nat) : g.name id = (g.nodes[id]?.map (·.name)).getD "" := by
  unfold name
  cases g.nodes[id]? <;> rfl

theorem children_eq (g : Graph) (id : Nat) :
    g.children id = (g.nodes[id]?.map (·.children)).getD [] := by
  unfold children
  cases g.nodes[id]? <;> rfl

theorem visit_eq (g : Graph) (id : Nat) :
    g.visit id = (g.nodes[id]?.map (·.visit)).getD .done := by
  unfold Graph.visit
  cases g.nodes[id]? <;> rfl

theorem satisfied_eq (g : Graph) (id : Nat) :
    g.satisfied id = (g.nodes[id]?.map (·.satisfied)).getD true := by
  unfold satisfied
  cases g.nodes[id]? <;> rfl

theorem children_of_size_le {g : Graph} {id : Nat} (outside : g.size ≤ id) :
    g.children id = [] := by
  rw [children_eq, Array.getElem?_eq_none outside]
  rfl

theorem lt_size_of_mem_children {g : Graph} {id child : Nat} (member : child ∈ g.children id) :
    id < g.size := by
  rcases Nat.lt_or_ge id g.size with inside | outside
  · exact inside
  · rw [children_of_size_le outside] at member
    exact absurd member List.not_mem_nil

theorem lt_size_of_satisfied {g : Graph} {id : Nat} (left : g.satisfied id = false) :
    id < g.size := by
  rcases Nat.lt_or_ge id g.size with inside | outside
  · exact inside
  · rw [satisfied_eq, Array.getElem?_eq_none outside] at left
    simp at left

theorem map_modify_of_kept {α : Type} (nodes : Array Node) (id : Nat) {change : Node → Node}
    {read : Node → α} (kept : ∀ node, read (change node) = read node) (other : Nat) :
    (nodes.modify id change)[other]?.map read = nodes[other]?.map read := by
  rw [Array.getElem?_modify]
  by_cases same : id = other
  · cases nodes[other]? <;> simp [same, kept]
  · simp [same]

theorem size_setChildren (g : Graph) (id : Nat) (children : List Nat) :
    (g.setChildren id children).size = g.size := Array.size_modify

theorem name_setChildren (g : Graph) (id : Nat) (children : List Nat) (other : Nat) :
    (g.setChildren id children).name other = g.name other := by
  rw [name_eq, name_eq]
  congr 1
  apply map_modify_of_kept
  exact fun _ => rfl

theorem names_setChildren (g : Graph) (id : Nat) (children : List Nat) :
    (g.setChildren id children).name = g.name := funext (g.name_setChildren id children)

theorem children_setChildren (g : Graph) (id : Nat) (children : List Nat) (other : Nat) :
    (g.setChildren id children).children other =
      if id = other ∧ other < g.size then children else g.children other := by
  rw [children_eq, children_eq, setChildren, Array.getElem?_modify]
  by_cases inside : other < g.size
  · have found := Array.getElem?_eq_getElem inside
    by_cases same : id = other <;> simp [same, inside, found]
  · simp [inside, Array.getElem?_eq_none (Nat.le_of_not_lt inside)]

theorem satisfied_setVisit (g : Graph) (id : Nat) (visit : Visit) (other : Nat) :
    (g.setVisit id visit).satisfied other = g.satisfied other := by
  rw [satisfied_eq, satisfied_eq]
  congr 1
  apply map_modify_of_kept
  exact fun _ => rfl

theorem satisfied_setSatisfied (g : Graph) (id : Nat) (satisfied : Bool) (other : Nat) :
    (g.setSatisfied id satisfied).satisfied other =
      if id = other ∧ other < g.size then satisfied else g.satisfied other := by
  rw [satisfied_eq, satisfied_eq, setSatisfied, Array.getElem?_modify]
  by_cases inside : other < g.size
  · have found := Array.getElem?_eq_getElem inside
    by_cases same : id = other <;> simp [same, inside, found]
  · simp [inside, Array.getElem?_eq_none (Nat.le_of_not_lt inside)]

/-- Marking a node satisfied, also one that does not exist: it counts as satisfied anyway. -/
theorem satisfied_setSatisfied_true (g : Graph) (id other : Nat) :
    (g.setSatisfied id true).satisfied other = true ↔ id = other ∨ g.satisfied other = true := by
  rw [satisfied_setSatisfied]
  by_cases same : id = other
  · by_cases inside : other < g.size
    · simp [same, inside]
    · have outside : g.satisfied other = true := by
        cases unmarked : g.satisfied other with
        | true => rfl
        | false => exact absurd (lt_size_of_satisfied unmarked) inside
      simp [outside]
  · simp [same]

/-! The shape of a graph is the graph without its marks. -/

def unmarked (g : Graph) : Graph :=
  { g with nodes := g.nodes.map fun node => { node with visit := .unvisited, satisfied := false } }

theorem unmarked_modify {g : Graph} {id : Nat} {change : Node → Node}
    (kept : ∀ node : Node, ({ change node with visit := .unvisited, satisfied := false } : Node) =
      { node with visit := .unvisited, satisfied := false }) :
    ({ g with nodes := g.nodes.modify id change } : Graph).unmarked = g.unmarked := by
  unfold unmarked
  congr 1
  apply Array.ext_getElem?
  intro other
  rw [Array.getElem?_map, Array.getElem?_map]
  exact map_modify_of_kept _ _ kept other

theorem unmarked_setVisit (g : Graph) (id : Nat) (visit : Visit) :
    (g.setVisit id visit).unmarked = g.unmarked := unmarked_modify fun _ => rfl

theorem unmarked_setSatisfied (g : Graph) (id : Nat) (satisfied : Bool) :
    (g.setSatisfied id satisfied).unmarked = g.unmarked := unmarked_modify fun _ => rfl

theorem unmarked_setChildren (g : Graph) (id : Nat) (children : List Nat) :
    (g.setChildren id children).unmarked = g.unmarked.setChildren id children := by
  unfold unmarked setChildren
  congr 1
  apply Array.ext_getElem?
  intro other
  rw [Array.getElem?_map, Array.getElem?_modify, Array.getElem?_modify, Array.getElem?_map]
  split <;> cases g.nodes[other]? <;> rfl

theorem size_unmarked (g : Graph) : g.unmarked.size = g.size := Array.size_map

theorem name_unmarked (g : Graph) (id : Nat) : g.unmarked.name id = g.name id := by
  rw [name_eq, name_eq, unmarked, Array.getElem?_map, Option.map_map]
  rfl

theorem children_unmarked (g : Graph) (id : Nat) : g.unmarked.children id = g.children id := by
  rw [children_eq, children_eq, unmarked, Array.getElem?_map, Option.map_map]
  rfl

theorem visit_of_unmarked {g : Graph} {id : Nat} (fresh : g.unmarked = g) (inside : id < g.size) :
    g.visit id = .unvisited := by
  rw [← fresh, visit_eq, unmarked, Array.getElem?_map, Array.getElem?_eq_getElem inside]
  rfl

theorem satisfied_of_unmarked {g : Graph} {id : Nat} (fresh : g.unmarked = g)
    (inside : id < g.size) : g.satisfied id = false := by
  rw [← fresh, satisfied_eq, unmarked, Array.getElem?_map, Array.getElem?_eq_getElem inside]
  rfl

section Shape
variable {g h : Graph} (shape : g.unmarked = h.unmarked)
include shape

theorem root_of_shape : g.root = h.root := (congrArg Graph.root shape :)

theorem size_of_shape : g.size = h.size := by
  rw [← g.size_unmarked, shape, size_unmarked]

theorem idOf?_of_shape (name : String) : g.idOf? name = h.idOf? name := by
  have index := congrArg Graph.index shape
  exact congrArg (fun index : Std.ExtTreeMap String Nat => index[name]?) index

theorem name_of_shape (id : Nat) : g.name id = h.name id := by
  rw [← g.name_unmarked, shape, name_unmarked]

theorem names_of_shape : g.name = h.name := funext (name_of_shape shape)

theorem children_of_shape (id : Nat) : g.children id = h.children id := by
  rw [← g.children_unmarked, shape, children_unmarked]

end Shape

def withSatisfied (g : Graph) (marks : Nat → Bool) : Graph :=
  { g with nodes := g.nodes.mapIdx fun id node => { node with satisfied := marks id } }

theorem unmarked_withSatisfied (g : Graph) (marks : Nat → Bool) :
    (g.withSatisfied marks).unmarked = g.unmarked := by
  unfold unmarked withSatisfied
  congr 1
  apply Array.ext_getElem?
  intro id
  rw [Array.getElem?_map, Array.getElem?_map, Array.getElem?_mapIdx, Option.map_map]
  rfl

def withVisits (g : Graph) (marks : Nat → Visit) : Graph :=
  { g with nodes := g.nodes.mapIdx fun id node => { node with visit := marks id } }

theorem unmarked_withVisits (g : Graph) (marks : Nat → Visit) :
    (g.withVisits marks).unmarked = g.unmarked := by
  unfold unmarked withVisits
  congr 1
  apply Array.ext_getElem?
  intro id
  rw [Array.getElem?_map, Array.getElem?_map, Array.getElem?_mapIdx, Option.map_map]
  rfl

theorem eq_withVisits {g h : Graph} (shape : h.unmarked = g.unmarked)
    (satisfied : ∀ id, h.satisfied id = g.satisfied id) : h = g.withVisits h.visit := by
  have nodes : h.nodes = (g.withVisits h.visit).nodes := by
    apply Array.ext_getElem?
    intro id
    have plain := congrArg (fun k : Graph => k.nodes[id]?) shape
    have marks := satisfied id
    simp only [unmarked, Array.getElem?_map] at plain
    rw [satisfied_eq, satisfied_eq] at marks
    rw [withVisits, Array.getElem?_mapIdx, visit_eq]
    cases ours : h.nodes[id]? with
    | none =>
      rw [ours] at plain
      rw [Option.map_eq_none_iff.mp plain.symm]
      rfl
    | some node =>
      cases theirs : g.nodes[id]? with
      | none => simp [ours, theirs] at plain
      | some other =>
        obtain ⟨name, children, visit, done⟩ := node
        obtain ⟨name', children', visit', done'⟩ := other
        simp_all
  have index : h.index = g.index := (congrArg Graph.index shape :)
  calc
    h = ⟨h.nodes, h.index, h.root⟩ := rfl
    _ = ⟨(g.withVisits h.visit).nodes, g.index, g.root⟩ := by
      rw [nodes, index, root_of_shape shape]
    _ = g.withVisits h.visit := rfl

end TaskRunner.Graph
