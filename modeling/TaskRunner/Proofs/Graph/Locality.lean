import TaskRunner.Proofs.Graph.Closure

/-! A graph depends on nothing but what its root reaches. Stores that agree there give the same
graph or the same error, however many other tasks each of them declares. -/

namespace TaskRunner.Graph

variable {store other : Store} {root : String} {g : Graph}

theorem internAll_congr {names : List String} {ids : Array Nat}
    (same : ∀ name ∈ names, store.contains name = other.contains name) :
    g.internAll store ids names = g.internAll other ids names := by
  induction names generalizing g ids with
  | nil => rfl
  | cons name names ih =>
    have first : g.intern store name = g.intern other name := by
      unfold intern
      rw [same name List.mem_cons_self]
    unfold internAll
    rw [first]
    split
    next => exact ih fun name member => same name (List.mem_cons_of_mem _ member)
    next => rfl

theorem Growing.expand_congr {id : Nat} (growing : Growing store root g)
    (same : ∀ name, store.dependencyMap.Reaches root name →
      store.dependencyMap name = other.dependencyMap name) :
    g.expand store id = g.expand other id := by
  unfold Graph.expand
  split
  next inside =>
    have reached := growing.reached id inside
    have here : (store.get? (g.name id)).map (·.dependencies) =
      (other.get? (g.name id)).map (·.dependencies) := same _ reached
    cases found : store.get? (g.name id) with
    | none =>
      rw [found] at here
      rw [Option.map_eq_none_iff.mp here.symm]
    | some entry =>
      rw [found] at here
      obtain ⟨entry', found', dependencies⟩ := Option.map_eq_some_iff.mp here.symm
      have children : g.internAll store #[] entry.dependencies =
          g.internAll other #[] entry'.dependencies := by
        rw [dependencies]
        apply internAll_congr
        intro name member
        rw [store.contains_eq_dependencyMap, other.contains_eq_dependencyMap]
        rw [same name (reached.step (store.dependencyMap_of_get? found) member)]
      rw [found']
      simp only [children]
  next => rfl

theorem Growing.expandAll_congr {ids : List Nat} (growing : Growing store root g)
    (same : ∀ name, store.dependencyMap.Reaches root name →
      store.dependencyMap name = other.dependencyMap name) :
    g.expandAll store ids = g.expandAll other ids := by
  induction ids generalizing g with
  | nil => rfl
  | cons id ids ih =>
    unfold Graph.expandAll
    rw [← growing.expand_congr same]
    split
    next expanded => exact ih (growing.expand expanded)
    next => rfl

theorem expandAll_append (store : Store) (g : Graph) (first second : List Nat) :
    g.expandAll store (first ++ second) =
      match g.expandAll store first with
      | .ok g => g.expandAll store second
      | .error e => .error e := by
  induction first generalizing g with
  | nil => rfl
  | cons id first ih =>
    rw [List.cons_append, expandAll, expandAll]
    cases g.expand store id with
    | ok g => exact ih g
    | error e => rfl

theorem expandAll_of_size_le {ids : List Nat} (outside : ∀ id ∈ ids, g.size ≤ id) :
    g.expandAll store ids = .ok g := by
  induction ids with
  | nil => rfl
  | cons id ids ih =>
    have skipped : g.expand store id = .ok g :=
      if_neg (Nat.not_lt.mpr (outside id List.mem_cons_self))
    rw [expandAll, skipped]
    exact ih fun other member => outside other (List.mem_cons_of_mem _ member)

theorem build_eq_expandAll (declared : store.contains root = true) {count : Nat}
    (enough : store.size ≤ count) :
    build root store = (single root).expandAll store (List.range count) := by
  obtain ⟨extra, rfl⟩ := Nat.exists_eq_add_of_le enough
  rw [build, if_pos declared, List.range_add, expandAll_append]
  cases grown : (single root).expandAll store (List.range store.size) with
  | error e => rfl
  | ok g =>
    have bounded : g.size ≤ store.size :=
      (closure_of_build ((if_pos declared).trans grown)).size_le
    refine (expandAll_of_size_le fun id member => ?_).symm
    obtain ⟨offset, _, rfl⟩ := List.mem_map.mp member
    omega

theorem build_congr (same : ∀ name, store.dependencyMap.Reaches root name →
      store.dependencyMap name = other.dependencyMap name) :
    build root store = build root other := by
  have root_same : store.contains root = other.contains root := by
    rw [store.contains_eq_dependencyMap, other.contains_eq_dependencyMap, same root (.self _ _)]
  cases declared : store.contains root with
  | false =>
    rw [build, build, ← root_same, declared]
    rfl
  | true =>
    calc
      build root store = (single root).expandAll store (List.range (max store.size other.size)) :=
        build_eq_expandAll declared (Nat.le_max_left ..)
      _ = (single root).expandAll other (List.range (max store.size other.size)) :=
        (growing_single declared).expandAll_congr same
      _ = build root other :=
        (build_eq_expandAll (root_same ▸ declared) (Nat.le_max_right ..)).symm

end TaskRunner.Graph
