import TaskRunner.Proofs.BreadthFirst
import TaskRunner.Proofs.Graph.Worklist

/-! Numbers are given in breadth-first order. The nodes by number are what a search from the root
has found when it has handled the dependencies looked up so far, also in the middle of filling one
node; so a graph that is built lists all that the root reaches in that order, and one that cannot be
built is given up at the first name of that order that is not declared. -/

namespace TaskRunner.Graph
open DependencyMap

variable {store : Store} {root name : String} {g h : Graph} {handled : List String}

theorem names_addNode (g : Graph) (name : String) : (g.addNode name).names = g.names ++ [name] := by
  unfold names addNode
  rw [Array.toList_push, List.map_append]
  rfl

theorem names_of_name_eq (sizes : g.size = h.size) (same : g.name = h.name) :
    g.names = h.names := by
  rw [names_eq_map, names_eq_map, sizes, same]

theorem Numbering.mem_names_iff_isSome (numbered : Numbering store root g) :
    name ∈ g.names ↔ (g.idOf? name).isSome := by
  rw [List.mem_iff_getElem?, Option.isSome_iff_exists]
  exact exists_congr fun id =>
    getElem?_names_eq_some.trans (numbered.idOf?_eq_some name id).symm

/-- The nodes are what the search from the root found in handling these names. -/
structure Discovered (store : Store) (root : String) (g : Graph) (handled : List String) :
    Prop where
  growing : Growing store root g
  sweep : Sweep store.dependencyMap root handled
  names_eq : g.names = found root handled

/-- The error names what a search from the root comes upon as the first name not declared. -/
def Blames (store : Store) (root : String) (e : GraphError) : Prop :=
  ∃ handled declared name, Sweep store.dependencyMap root handled ∧
    found root handled = declared ++ [name] ∧
    (∀ other ∈ declared, store.contains other = true) ∧ store.contains name = false ∧
    e = .undeclaredTask name

theorem Numbering.declared_of_mem (numbered : Numbering store root g) (member : name ∈ g.names) :
    store.contains name = true := by
  obtain ⟨id, named⟩ := List.mem_iff_getElem?.mp member
  obtain ⟨inside, rfl⟩ := getElem?_names_eq_some.mp named
  exact numbered.declared id inside

theorem Discovered.intern (discovered : Discovered store root g handled)
    (waiting : handled ++ [name] <+: store.dependencyMap.mentions g.names) :
    match g.intern store name with
    | .ok (h, _) => Discovered store root h (handled ++ [name]) ∧ g.names <+: h.names
    | .error e => Blames store root e := by
  have growing := discovered.growing
  have names_eq := discovered.names_eq
  rw [names_eq] at waiting
  have sweep := discovered.sweep.handle waiting
  unfold Graph.intern
  cases known : g.idOf? name with
  | some id =>
    have member : name ∈ found root handled := by
      rw [← names_eq, growing.mem_names_iff_isSome, known]
      rfl
    exact ⟨⟨growing, sweep, names_eq.trans (found_append_of_mem member).symm⟩,
      List.prefix_refl _⟩
  | none =>
    have fresh : name ∉ found root handled := by
      rw [← names_eq, growing.mem_names_iff_isSome, known]
      exact Bool.false_ne_true
    have found_eq := found_append_of_not_mem fresh
    cases declared : store.contains name with
    | true =>
      have reached := sweep.reached name (by rw [found_eq]; simp)
      refine ⟨⟨growing.addNode known declared reached, sweep, ?_⟩, ?_⟩
      · rw [names_addNode, found_eq, names_eq]
      · rw [names_addNode]
        exact List.prefix_append _ _
    | false =>
      refine ⟨_, _, name, sweep, found_eq, fun other member => ?_, declared, rfl⟩
      exact growing.declared_of_mem (names_eq ▸ member)

theorem Discovered.internAll {names : List String}
    (discovered : Discovered store root g handled) (ids : Array Nat)
    (waiting : handled ++ names <+: store.dependencyMap.mentions g.names) :
    match g.internAll store ids names with
    | .ok (h, _) => Discovered store root h (handled ++ names) ∧ g.names <+: h.names
    | .error e => Blames store root e := by
  induction names generalizing g ids handled with
  | nil =>
    rw [Graph.internAll, List.append_nil]
    exact ⟨discovered, List.prefix_refl _⟩
  | cons name names ih =>
    rw [List.append_cons] at waiting ⊢
    have first := discovered.intern ((List.prefix_append _ _).trans waiting)
    rw [Graph.internAll]
    cases interned : g.intern store name with
    | error e => rwa [interned] at first
    | ok answer =>
      obtain ⟨between, id⟩ := answer
      rw [interned] at first
      obtain ⟨discovered', grown⟩ := first
      have rest := ih discovered' (ids.push id) (waiting.trans (mentions_isPrefix grown))
      dsimp only
      cases interned' : between.internAll store (ids.push id) names with
      | error e => rwa [interned'] at rest
      | ok answer =>
        rw [interned'] at rest
        exact ⟨rest.1, grown.trans rest.2⟩

theorem Discovered.setChildren (discovered : Discovered store root g handled) (id : Nat)
    (children : List Nat) : Discovered store root (g.setChildren id children) handled where
  growing := discovered.growing.setChildren id children
  sweep := discovered.sweep
  names_eq := by
    rw [← discovered.names_eq]
    exact names_of_name_eq (size_setChildren g id children) (names_setChildren g id children)

def mentionsBelow (store : Store) (g : Graph) (id : Nat) : List String :=
  store.dependencyMap.mentions (g.names.take id)

theorem mentionsBelow_succ {id : Nat} {entry : TaskEntry} (inside : id < g.size)
    (known : store.get? (g.name id) = some entry) :
    g.mentionsBelow store (id + 1) = g.mentionsBelow store id ++ entry.dependencies := by
  have here : g.names[id]? = some (g.name id) := getElem?_names_eq_some.mpr ⟨inside, rfl⟩
  have lists : store.dependencyMap.mentions [g.name id] = entry.dependencies := by
    rw [mentions, List.flatMap_singleton, listed, store.dependencyMap_of_get? known]
    rfl
  rw [mentionsBelow, List.take_add_one, here, Option.toList_some, mentions_append, lists]
  rfl

theorem mentionsBelow_of_size_le {id : Nat} (outside : g.size ≤ id) :
    g.mentionsBelow store id = store.dependencyMap.mentions g.names := by
  rw [mentionsBelow, List.take_of_length_le]
  rwa [length_names]

theorem mentionsBelow_of_isPrefix {id : Nat} (grown : g.names <+: h.names) (inside : id ≤ g.size) :
    h.mentionsBelow store id = g.mentionsBelow store id := by
  obtain ⟨new, whole⟩ := grown
  rw [mentionsBelow, ← whole, List.take_append_of_le_length]
  · rfl
  · rwa [length_names]

theorem Discovered.expand {id : Nat}
    (discovered : Discovered store root g (g.mentionsBelow store id)) :
    match g.expand store id with
    | .ok h => Discovered store root h (h.mentionsBelow store (id + 1))
    | .error e => Blames store root e := by
  unfold Graph.expand
  by_cases inside : id < g.size
  · have declared := discovered.growing.declared id inside
    rw [if_pos inside]
    cases known : store.get? (g.name id) with
    | none => simp [store.contains_eq, known] at declared
    | some entry =>
      have next := mentionsBelow_succ inside known
      have waiting : g.mentionsBelow store (id + 1) <+: store.dependencyMap.mentions g.names :=
        mentions_isPrefix (List.take_prefix _ _)
      have step := discovered.internAll #[] (next ▸ waiting)
      dsimp only
      cases interned : g.internAll store #[] entry.dependencies with
      | error e => rwa [interned] at step
      | ok answer =>
        obtain ⟨grown, children⟩ := answer
        rw [interned, ← next] at step
        obtain ⟨discovered', extended⟩ := step
        have filled := discovered'.setChildren id children
        have names_eq := filled.names_eq.trans discovered'.names_eq.symm
        dsimp only
        rw [mentionsBelow_of_isPrefix (names_eq ▸ extended) inside]
        exact filled
  · have outside := Nat.le_of_not_lt inside
    rw [if_neg inside]
    rw [mentionsBelow_of_size_le outside] at discovered
    dsimp only
    rwa [mentionsBelow_of_size_le (Nat.le_succ_of_le outside)]

theorem Discovered.expandAll (first count : Nat)
    (discovered : Discovered store root g (g.mentionsBelow store first)) :
    match g.expandAll store (List.range' first count) with
    | .ok h => Discovered store root h (h.mentionsBelow store (first + count))
    | .error e => Blames store root e := by
  induction count generalizing g first with
  | zero => exact discovered
  | succ count ih =>
    have step := discovered.expand
    rw [List.range'_succ, Graph.expandAll]
    cases expanded : g.expand store first with
    | error e => rwa [expanded] at step
    | ok after =>
      rw [expanded] at step
      rw [Nat.add_comm count 1, ← Nat.add_assoc]
      exact ih (first + 1) step

theorem discovered_single (declared : store.contains root = true) :
    Discovered store root (single root) [] where
  growing := growing_single declared
  sweep := .start _ root
  names_eq := rfl

theorem breadthFirst_or_blames (root : String) (store : Store) :
    match build root store with
    | .ok g => BreadthFirst store.dependencyMap root g.names
    | .error e => Blames store root e := by
  cases declared : store.contains root with
  | false =>
    rw [build, declared]
    exact ⟨[], [], root, .start _ root, rfl, by simp, declared, rfl⟩
  | true =>
    have run := (discovered_single declared).expandAll 0 store.size
    rw [build, if_pos declared, List.range_eq_range']
    cases grown : (single root).expandAll store (List.range' 0 store.size) with
    | error e => rwa [grown] at run
    | ok g =>
      rw [grown] at run
      have room : g.size ≤ 0 + store.size := by
        rw [Nat.zero_add]
        exact run.growing.size_le
      have names_eq := run.names_eq
      have sweep := run.sweep
      rw [mentionsBelow_of_size_le room] at names_eq sweep
      dsimp only
      rw [names_eq]
      exact sweep.breadthFirst (congrArg _ names_eq)

theorem mem_of_reaches (reached : store.dependencyMap.Reaches root name) :
    name ∈ root :: store.dependencyMap.mentions store.entries.keys := by
  refine Reaches.mem_of_closed List.mem_cons_self (fun task _ dependency lists => ?_) reached
  refine List.mem_cons_of_mem _ (mem_mentions.mpr ⟨task, ?_, lists⟩)
  rw [Std.ExtTreeMap.mem_keys, ← Std.ExtTreeMap.contains_iff_mem]
  change store.contains task = true
  rw [store.contains_eq_dependencyMap]
  cases known : store.dependencyMap task with
  | none => simp [listed, known] at lists
  | some dependencies => rfl

/-- What a search comes upon first is the first name of the order that is not declared, and no such
name is nearer to the root. -/
theorem Blames.first_undeclared {e : GraphError} {order : List String}
    (blames : Blames store root e) (sorted : BreadthFirst store.dependencyMap root order) :
    ∃ name, e = .undeclaredTask name ∧
      order.find? (fun other => !store.contains other) = some name ∧
      ∀ other, store.dependencyMap.Reaches root other → store.contains other = false →
        store.dependencyMap.distance root name ≤ store.dependencyMap.distance root other := by
  obtain ⟨handled, early, name, sweep, found_eq, declared, undeclared, rfl⟩ := blames
  obtain ⟨order', sorted', rest, ahead⟩ := sweep.exists_breadthFirst fun _ => mem_of_reaches
  obtain rfl := sorted.unique sorted'
  rw [found_eq, ← List.append_cons] at ahead
  refine ⟨name, rfl, ?_, fun other reached undeclared' => ?_⟩
  · rw [List.find?_eq_some_iff_append]
    exact ⟨by simp [undeclared], early, rest, ahead.symm, by simpa using declared⟩
  · have member := (sorted.mem_iff other).mpr reached
    have ordered := sorted.sorted
    rw [← ahead] at member ordered
    rcases List.mem_append.mp member with front | behind
    · rw [declared other front] at undeclared'
      cases undeclared'
    · rcases List.mem_cons.mp behind with rfl | later
      · exact Nat.le_refl _
      · have behind := List.rel_of_pairwise_cons (List.pairwise_append.mp ordered).2.1 later
        rcases behind with less | ⟨same, _⟩
        · exact Nat.le_of_lt less
        · exact Nat.le_of_eq same

/-- All that the root reaches has exactly one breadth-first order. Building gives the numbers in
that order, or names the first name of it that is not declared, and none that is not declared is
nearer to the root. -/
theorem build_breadthFirst (root : String) (store : Store) :
    ∃ order, (∀ other, BreadthFirst store.dependencyMap root other ↔ other = order) ∧
      match build root store with
      | .ok g => g.names = order
      | .error e => ∃ name, e = .undeclaredTask name ∧
          order.find? (fun other => !store.contains other) = some name ∧
          ∀ other, store.dependencyMap.Reaches root other → store.contains other = false →
            store.dependencyMap.distance root name ≤ store.dependencyMap.distance root other := by
  obtain ⟨order, sorted, _⟩ :=
    (Sweep.start store.dependencyMap root).exists_breadthFirst fun _ => mem_of_reaches
  refine ⟨order, fun other => ⟨fun sorted' => sorted'.unique sorted, ?_⟩, ?_⟩
  · rintro rfl
    exact sorted
  · have outcome := breadthFirst_or_blames root store
    cases built : build root store with
    | ok g =>
      rw [built] at outcome
      exact outcome.unique sorted
    | error e =>
      rw [built] at outcome
      exact outcome.first_undeclared sorted

/-- The name that is missing one step deeper is not the one that is blamed, though the task that
needs it is listed first. -/
example : (build "a" (.ofDeclarations [⟨"a", ["c", "b", "c"]⟩, ⟨"b", ["near"]⟩, ⟨"c", ["d", "a"]⟩,
    ⟨"d", ["far"]⟩])).map Graph.names = .error (.undeclaredTask "near") := by cbv

end TaskRunner.Graph
