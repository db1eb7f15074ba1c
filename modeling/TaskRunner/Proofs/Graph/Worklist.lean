import TaskRunner.Proofs.Graph.Edges
import TaskRunner.Proofs.Graph.Locality

/-! Building as a queue of nodes that wait for their children. Going through the numbers in order is
going through that queue, which runs empty also when tasks depend on each other in a circle; the
graph it leaves is the transitive closure of the root and nothing else. -/

namespace TaskRunner.Graph
open DependencyMap

variable {store : Store} {root : String} {g h : Graph}

/-- The first node of the queue is expanded, and the nodes that this adds go behind the others, until
no node waits or a name is not declared. -/
inductive Drains (store : Store) : Graph → List Nat → Except GraphError Graph → Prop
  | done (g : Graph) : Drains store g [] (.ok g)
  | expand {g after : Graph} {id : Nat} {pending : List Nat} {answer : Except GraphError Graph}
      (expanded : g.expand store id = .ok after)
      (rest : Drains store after (pending ++ List.range' g.size (after.size - g.size)) answer) :
      Drains store g (id :: pending) answer
  | stop {g : Graph} {id : Nat} {pending : List Nat} {e : GraphError}
      (failed : g.expand store id = .error e) : Drains store g (id :: pending) (.error e)

theorem Drains.unique {pending : List Nat} {first second : Except GraphError Graph}
    (drains : Drains store g pending first) (drains' : Drains store g pending second) :
    first = second := by
  induction drains with
  | done g =>
    cases drains'
    rfl
  | expand expanded rest ih =>
    cases drains' with
    | expand expanded' rest' =>
      cases expanded.symm.trans expanded'
      exact ih rest'
    | stop failed => cases expanded.symm.trans failed
  | stop failed =>
    cases drains' with
    | expand expanded rest => cases failed.symm.trans expanded
    | stop failed' =>
      cases failed.symm.trans failed'
      rfl

theorem Growing.size_le_expand {id : Nat} (growing : Growing store root g)
    (built : g.expand store id = .ok h) : g.size ≤ h.size := by
  rcases growing.expand_cases built with ⟨_, rfl⟩ | ⟨_, grown, children, _, extended, rfl, _⟩
  · exact Nat.le_refl _
  · rw [size_setChildren]
    exact extended.size_le

theorem range'_sub_append {first middle last : Nat} (below : first ≤ middle)
    (below' : middle ≤ last) :
    List.range' first (middle - first) ++ List.range' middle (last - middle) =
      List.range' first (last - first) := by
  obtain ⟨early, rfl⟩ := Nat.exists_eq_add_of_le below
  obtain ⟨late, rfl⟩ := Nat.exists_eq_add_of_le below'
  have whole : first + early + late - first = early + late := by omega
  rw [whole, Nat.add_sub_cancel_left, Nat.add_sub_cancel_left]
  exact List.range'_append_1

/-- The nodes that wait are those from some number on. There are no more nodes than tasks, so the
queue is empty when that many numbers were gone through. -/
theorem Growing.drains_expandAll {first count : Nat} (growing : Growing store root g)
    (enough : store.size ≤ first + count) :
    Drains store g (List.range' first (g.size - first))
      (g.expandAll store (List.range' first count)) := by
  have bounded := growing.size_le
  induction count generalizing g first with
  | zero =>
    have empty : g.size - first = 0 := by omega
    rw [empty]
    exact .done g
  | succ count ih =>
    by_cases inside : first < g.size
    · have waiting : g.size - first = g.size - (first + 1) + 1 := by omega
      rw [waiting, List.range'_succ, List.range'_succ, Graph.expandAll]
      cases expanded : g.expand store first with
      | error e => exact .stop expanded
      | ok after =>
        have grown := growing.size_le_expand expanded
        have growing' := growing.expand expanded
        refine .expand expanded ?_
        rw [range'_sub_append inside grown]
        exact ih growing' (by omega) growing'.size_le
    · have empty : g.size - first = 0 := by omega
      have outside : ∀ id ∈ List.range' first (count + 1), g.size ≤ id := by
        intro id member
        have above := (List.mem_range'_1.mp member).1
        omega
      rw [empty, expandAll_of_size_le outside]
      exact .done g

theorem drains_build (declared : store.contains root = true) :
    Drains store (single root) [0] (build root store) := by
  rw [build, if_pos declared, List.range_eq_range']
  have enough : store.size ≤ 0 + store.size := by omega
  exact (growing_single declared).drains_expandAll enough

def names (g : Graph) : List String := g.nodes.toList.map (·.name)

theorem getElem?_names (g : Graph) (id : Nat) : g.names[id]? = g.nodes[id]?.map (·.name) := by
  rw [names, List.getElem?_map, Array.getElem?_toList]

theorem length_names (g : Graph) : g.names.length = g.size := by
  rw [names, List.length_map, Array.length_toList, size]

theorem getElem?_names_eq_some {id : Nat} {name : String} :
    g.names[id]? = some name ↔ id < g.size ∧ g.name id = name := by
  rw [getElem?_names, name_eq]
  by_cases inside : id < g.nodes.size <;> simp [size, inside]

theorem names_eq_map (g : Graph) : g.names = (List.range g.size).map g.name := by
  apply List.ext_getElem
  · rw [length_names, List.length_map, List.length_range]
  · intro id inside _
    have named := (getElem?_names_eq_some.mp (List.getElem?_eq_getElem inside)).2
    rw [List.getElem_map, List.getElem_range, named]

theorem Closure.mem_names_iff (closed : Closure store root g) {name : String} :
    name ∈ g.names ↔ store.dependencyMap.Reaches root name := by
  rw [← closed.exists_name_iff, List.mem_iff_getElem?]
  exact exists_congr fun _ => getElem?_names_eq_some

theorem Numbering.nodup_names (numbered : Numbering store root g) : g.names.Nodup := by
  rw [names_eq_map]
  apply List.nodup_range.map_on
  intro first inside second inside' same
  exact numbered.name_injective (List.mem_range.mp inside) (List.mem_range.mp inside') same

/-- A graph of one node for every name that the root reaches, with an index of their numbers. The
children of a node are the numbers of its dependencies, in declared order and as often as they are
declared. No node is marked. -/
structure TransitiveClosure (store : Store) (root : String) (g : Graph) : Prop where
  distinct : g.names.Nodup
  mem_names_iff : ∀ name, name ∈ g.names ↔ store.dependencyMap.Reaches root name
  contains_iff : ∀ name, g.contains name = true ↔ store.dependencyMap.Reaches root name
  idOf?_eq_some_iff : ∀ name id, g.idOf? name = some id ↔ g.names[id]? = some name
  children_eq : ∀ node ∈ g.nodes, ∃ dependencies,
    store.dependencyMap node.name = some dependencies ∧
      node.children.map some = dependencies.map g.idOf?
  root_eq : g.root = 0
  idOf?_root : g.idOf? root = some 0
  fresh : ∀ node ∈ g.nodes, node.visit = .unvisited ∧ node.satisfied = false

theorem exists_id_of_mem {node : Node} (member : node ∈ g.nodes) :
    ∃ id, id < g.size ∧ g.name id = node.name ∧ g.children id = node.children ∧
      g.visit id = node.visit ∧ g.satisfied id = node.satisfied := by
  obtain ⟨id, found⟩ := Array.mem_iff_getElem?.mp member
  have inside : id < g.nodes.size := (Array.getElem?_eq_some_iff.mp found).1
  refine ⟨id, inside, ?_⟩
  rw [name_eq, children_eq, visit_eq, satisfied_eq, found]
  exact ⟨rfl, rfl, rfl, rfl⟩

theorem transitiveClosure_of_build (built : build root store = .ok g) :
    TransitiveClosure store root g := by
  have closed := closure_of_build built
  have unmarked := unmarked_of_build built
  refine ⟨closed.nodup_names, fun _ => closed.mem_names_iff, fun _ => closed.contains_iff,
    fun name id => ?_, fun node member => ?_, closed.root_eq, ?_, fun node member => ?_⟩
  · rw [closed.idOf?_eq_some, getElem?_names_eq_some]
  · obtain ⟨id, inside, named, children, _⟩ := exists_id_of_mem member
    obtain ⟨dependencies, below⟩ := closed.expanded id inside
    rw [named, children] at dependencies
    rw [children] at below
    refine ⟨_, dependencies, ?_⟩
    rw [List.map_map]
    apply List.map_congr_left
    intro child within
    exact ((closed.idOf?_eq_some _ child).mpr ⟨below child within, rfl⟩).symm
  · exact (closed.idOf?_eq_some root 0).mpr ⟨closed.size_pos, closed.name_root⟩
  · obtain ⟨id, inside, _, _, visit, satisfied⟩ := exists_id_of_mem member
    rw [← visit, ← satisfied]
    exact ⟨visit_of_unmarked unmarked inside, satisfied_of_unmarked unmarked inside⟩

/-- Building empties its queue on every store and gives its answer. It succeeds if and only if all
that the root reaches is declared, and then with the transitive closure of the root. -/
theorem build_transitiveClosure (root : String) (store : Store) :
    (store.contains root = true → ∀ answer,
        Drains store (single root) [0] answer ↔ build root store = answer) ∧
      ((∃ g, build root store = .ok g) ↔
        ∀ name, store.dependencyMap.Reaches root name → store.contains name = true) ∧
      ∀ g, build root store = .ok g → TransitiveClosure store root g := by
  refine ⟨fun declared answer => ?_, ⟨?_, fun declared => ?_⟩, fun g => transitiveClosure_of_build⟩
  · have drains := drains_build declared
    constructor
    · exact drains.unique
    · rintro rfl
      exact drains
  · rintro ⟨g, built⟩ name reached
    have closed := closure_of_build built
    obtain ⟨id, inside, rfl⟩ := closed.exists_name_iff.mpr reached
    exact closed.declared id inside
  · cases built : build root store with
    | ok g => exact ⟨g, rfl⟩
    | error e =>
      obtain ⟨name, _, reached, undeclared⟩ := build_error built
      rw [declared name reached] at undeclared
      cases undeclared

def sharedLoop : Store :=
  .ofDeclarations [⟨"d", ["gone"]⟩, ⟨"a", ["b", "c", "b"]⟩, ⟨"b", ["c"]⟩, ⟨"c", ["a"]⟩]

theorem build_transitiveClosure_sharedLoop :
    ∃ g, build "a" sharedLoop = .ok g ∧ Drains sharedLoop (single "a") [0] (.ok g) ∧
      TransitiveClosure sharedLoop "a" g ∧ g.names = ["a", "b", "c"] ∧
      g.children 0 = [1, 2, 1] := by
  obtain ⟨drains, _, exact⟩ := build_transitiveClosure "a" sharedLoop
  have seen : (build "a" sharedLoop).map (fun g => (g.names, g.children 0)) =
      .ok (["a", "b", "c"], [1, 2, 1]) := by cbv
  cases built : build "a" sharedLoop with
  | error e => simp [built, Except.map] at seen
  | ok g =>
    have seen' : g.names = ["a", "b", "c"] ∧ g.children 0 = [1, 2, 1] := by
      simpa [built, Except.map] using seen
    have declared : sharedLoop.contains "a" = true := by cbv
    exact ⟨g, rfl, (drains declared _).mpr built, exact g built, seen'⟩

end TaskRunner.Graph
