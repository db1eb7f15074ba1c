import Mathlib.Data.List.Nodup
import Mathlib.Data.List.Perm.Subperm
import Mathlib.Order.Lattice.Nat
import TaskRunner.Proofs.Dependency

/-! Breadth-first order. Names that the root reaches in fewer steps come first; among names of equal
distance, the one comes first that an earlier task of the same order lists, or the same task further
to the front. There is one such order of all that a root reaches, and it is found by going through
what the names found so far list, in turn, with every new name behind the others. -/

namespace TaskRunner.DependencyMap

variable {m : DependencyMap} {root : String} {steps : Nat} {name : String}
  {order handled : List String}

inductive ReachesIn (m : DependencyMap) (root : String) : Nat → String → Prop
  | root : ReachesIn m root 0 root
  | step {steps : Nat} {task name : String} (reached : ReachesIn m root steps task)
      (lists : name ∈ m.listed task) : ReachesIn m root (steps + 1) name

theorem ReachesIn.reaches (reached : m.ReachesIn root steps name) : m.Reaches root name := by
  induction reached with
  | root => exact .self m root
  | step _ lists ih => exact ih.of_listed lists

theorem Reaches.exists_reachesIn (reached : m.Reaches root name) :
    ∃ steps, m.ReachesIn root steps name := by
  induction reached with
  | refl => exact ⟨0, .root⟩
  | tail _ last ih =>
    obtain ⟨steps, within⟩ := ih
    exact ⟨steps + 1, within.step (depends_iff.mp last)⟩

/-- The least number of steps in which the root reaches a name. -/
noncomputable def distance (m : DependencyMap) (root name : String) : Nat :=
  sInf {steps | m.ReachesIn root steps name}

theorem ReachesIn.distance_le (reached : m.ReachesIn root steps name) :
    m.distance root name ≤ steps := Nat.sInf_le reached

theorem Reaches.reachesIn_distance (reached : m.Reaches root name) :
    m.ReachesIn root (m.distance root name) name := Nat.sInf_mem reached.exists_reachesIn

theorem distance_self (m : DependencyMap) (root : String) : m.distance root root = 0 :=
  Nat.le_zero.mp ReachesIn.root.distance_le

theorem Reaches.exists_nearer (reached : m.Reaches root name) (apart : name ≠ root) :
    ∃ task, m.Reaches root task ∧ name ∈ m.listed task ∧
      m.distance root task < m.distance root name := by
  have shortest := reached.reachesIn_distance
  generalize m.distance root name = least at shortest
  cases shortest with
  | root => exact absurd rfl apart
  | step within lists => exact ⟨_, within.reaches, lists, Nat.lt_succ_of_le within.distance_le⟩

theorem Reaches.distance_eq_zero_iff (reached : m.Reaches root name) :
    m.distance root name = 0 ↔ name = root := by
  constructor
  · intro zero
    by_contra apart
    obtain ⟨_, _, _, nearer⟩ := reached.exists_nearer apart
    omega
  · rintro rfl
    exact distance_self m name

/-- The place in an order of the earliest task that lists a name. -/
def lister (m : DependencyMap) (order : List String) (name : String) : Nat :=
  order.findIdx fun task => decide (name ∈ m.listed task)

/-- The first position of a name in the list of the earliest task that lists it. -/
def position (m : DependencyMap) (order : List String) (name : String) : Nat :=
  ((order[m.lister order name]?.map m.listed).getD []).idxOf name

def ListedBefore (m : DependencyMap) (order : List String) (first second : String) : Prop :=
  m.lister order first < m.lister order second ∨
    m.lister order first = m.lister order second ∧
      m.position order first < m.position order second

def Precedes (m : DependencyMap) (root : String) (order : List String)
    (first second : String) : Prop :=
  m.distance root first < m.distance root second ∨
    m.distance root first = m.distance root second ∧ m.ListedBefore order first second

/-- All names that the root reaches, each once and in breadth-first order. -/
structure BreadthFirst (m : DependencyMap) (root : String) (order : List String) : Prop where
  distinct : order.Nodup
  mem_iff : ∀ name, name ∈ order ↔ m.Reaches root name
  sorted : order.Pairwise (m.Precedes root order)

def mentions (m : DependencyMap) (order : List String) : List String := order.flatMap m.listed

theorem mem_mentions : name ∈ m.mentions order ↔ ∃ task ∈ order, name ∈ m.listed task :=
  List.mem_flatMap

theorem mentions_append (m : DependencyMap) (first second : List String) :
    m.mentions (first ++ second) = m.mentions first ++ m.mentions second :=
  List.flatMap_append

theorem lister_cons (task name : String) (order : List String) :
    m.lister (task :: order) name =
      if name ∈ m.listed task then 0 else m.lister order name + 1 := by
  unfold lister
  rw [List.findIdx_cons]
  by_cases lists : name ∈ m.listed task <;> simp [lists]

theorem position_cons (task name : String) (order : List String) :
    m.position (task :: order) name =
      if name ∈ m.listed task then (m.listed task).idxOf name else m.position order name := by
  unfold position
  rw [lister_cons]
  by_cases lists : name ∈ m.listed task <;> simp [lists]

theorem listedBefore_iff (m : DependencyMap) (order : List String) (first second : String) :
    m.ListedBefore order first second ↔
      (m.mentions order).idxOf first < (m.mentions order).idxOf second := by
  unfold ListedBefore
  induction order with
  | nil => simp [lister, position, mentions]
  | cons task order ih =>
    have unfolded : m.mentions (task :: order) = m.listed task ++ m.mentions order := rfl
    rw [unfolded, List.idxOf_append, List.idxOf_append]
    simp only [lister_cons, position_cons]
    by_cases lists : first ∈ m.listed task <;> by_cases lists' : second ∈ m.listed task
    · simp [lists, lists']
    · have inside := List.idxOf_lt_length_of_mem lists
      simp only [lists, lists', ↓reduceIte]
      omega
    · have inside := List.idxOf_lt_length_of_mem lists'
      simp only [lists, lists', ↓reduceIte]
      omega
    · simp only [lists, lists', ↓reduceIte]
      omega

theorem mentions_isPrefix {first second : List String} (ahead : first <+: second) :
    m.mentions first <+: m.mentions second := ahead.flatMap _

theorem mem_mentions_of_idxOf_le {ahead behind : List String} {task other : String}
    (lists : name ∈ m.listed task)
    (early : (m.mentions (ahead ++ [task] ++ behind)).idxOf other ≤
      (m.mentions (ahead ++ [task] ++ behind)).idxOf name) :
    other ∈ m.mentions (ahead ++ [task]) := by
  have front : m.mentions (ahead ++ [task]) <+: m.mentions (ahead ++ [task] ++ behind) :=
    mentions_isPrefix (List.prefix_append _ _)
  have named : name ∈ m.mentions (ahead ++ [task]) :=
    mem_mentions.mpr ⟨task, List.mem_append_right _ List.mem_cons_self, lists⟩
  rw [front.mem_iff_idxOf_lt_length] at named ⊢
  exact Nat.lt_of_le_of_lt early named

theorem BreadthFirst.mem_mentions_ahead {ahead rest : List String} {here : String}
    (sorted : BreadthFirst m root (ahead ++ here :: rest)) (reached : m.Reaches root name)
    (apart : name ≠ root) (near : m.distance root name ≤ m.distance root here) :
    name ∈ m.mentions ahead := by
  obtain ⟨task, within, lists, nearer⟩ := reached.exists_nearer apart
  have member := (sorted.mem_iff task).mpr within
  rcases List.mem_append.mp member with inside | behind
  · exact mem_mentions.mpr ⟨task, inside, lists⟩
  · exfalso
    -- Behind the front part everything is at least as far as `here`, and the lister is nearer.
    have ordered := (List.pairwise_append.mp sorted.sorted).2.1
    rcases List.mem_cons.mp behind with rfl | later
    · omega
    · rcases (List.pairwise_cons.mp ordered).1 task later with less | ⟨same, _⟩ <;> omega

theorem BreadthFirst.precedes_of_not_mem {ahead rest : List String} {here : String}
    (sorted : BreadthFirst m root (ahead ++ here :: rest)) (reached : m.Reaches root name)
    (fresh : name ∉ ahead) (apart : name ≠ here) :
    m.distance root here < m.distance root name ∨
      m.distance root here = m.distance root name ∧
        (m.mentions ahead).idxOf here < (m.mentions ahead).idxOf name := by
  have member : name ∈ rest := by
    have whole := (sorted.mem_iff name).mpr reached
    simpa [fresh, apart] using whole
  have ordered := (List.pairwise_append.mp sorted.sorted).2.1
  rcases (List.pairwise_cons.mp ordered).1 name member with less | ⟨same, before⟩
  · exact .inl less
  · refine .inr ⟨same, ?_⟩
    have reached' : m.Reaches root here := (sorted.mem_iff here).mp (by simp)
    have first_iff : here = root ↔ name = root := by
      rw [← reached'.distance_eq_zero_iff, same, reached.distance_eq_zero_iff]
    have apart_root : here ≠ root := fun first => apart ((first_iff.mp first).trans first.symm)
    have apart_root' : name ≠ root := fun first => apart_root (first_iff.mpr first)
    have known := sorted.mem_mentions_ahead reached' apart_root (Nat.le_refl _)
    have known' := sorted.mem_mentions_ahead reached apart_root' (Nat.le_of_eq same.symm)
    rw [listedBefore_iff, mentions_append, List.idxOf_append, List.idxOf_append, if_pos known,
      if_pos known'] at before
    exact before

theorem exists_parting {first second : List String} (lengths : first.length = second.length)
    (apart : first ≠ second) :
    ∃ ahead here there rest rest', first = ahead ++ here :: rest ∧
      second = ahead ++ there :: rest' ∧ here ≠ there := by
  induction first generalizing second with
  | nil => exact absurd (List.length_eq_zero_iff.mp lengths.symm).symm apart
  | cons here rest ih =>
    cases second with
    | nil => cases lengths
    | cons there rest' =>
      by_cases same : here = there
      · subst same
        obtain ⟨ahead, left, right, below, below', rfl, rfl, differ⟩ :=
          ih (Nat.succ.inj lengths) (fun equal => apart (congrArg _ equal))
        exact ⟨here :: ahead, left, right, below, below', rfl, rfl, differ⟩
      · exact ⟨[], here, there, rest, rest', rfl, rfl, same⟩

/-- There is no more than one breadth-first order: where two part, each would put its own name in
front of the other's. -/
theorem BreadthFirst.unique {other : List String} (sorted : BreadthFirst m root order)
    (sorted' : BreadthFirst m root other) : order = other := by
  by_contra apart
  have lengths : order.length = other.length := by
    refine ((List.perm_ext_iff_of_nodup sorted.distinct sorted'.distinct).mpr ?_).length_eq
    exact fun name => (sorted.mem_iff name).trans (sorted'.mem_iff name).symm
  obtain ⟨ahead, here, there, rest, rest', rfl, rfl, differ⟩ := exists_parting lengths apart
  have fresh : here ∉ ahead := fun inside =>
    (List.nodup_append.mp sorted.distinct).2.2 here inside here List.mem_cons_self rfl
  have fresh' : there ∉ ahead := fun inside =>
    (List.nodup_append.mp sorted'.distinct).2.2 there inside there List.mem_cons_self rfl
  have reached : m.Reaches root here := (sorted.mem_iff here).mp (by simp)
  have reached' : m.Reaches root there := (sorted'.mem_iff there).mp (by simp)
  have first := sorted.precedes_of_not_mem reached' fresh' (Ne.symm differ)
  have second := sorted'.precedes_of_not_mem reached fresh differ
  omega

/-- What is found from a root when these mentions were handled: every name once, where it came up
first. -/
def found (root : String) (handled : List String) : List String := (root :: handled).eraseDups

theorem mem_found : name ∈ found root handled ↔ name = root ∨ name ∈ handled := by
  rw [found, List.mem_eraseDups, List.mem_cons]

theorem found_append (root : String) (handled more : List String) :
    found root (handled ++ more) =
      found root handled ++ (more.removeAll (root :: handled)).eraseDups := by
  rw [found, ← List.cons_append, List.eraseDups_append, found]

theorem found_isPrefix (root : String) (handled more : List String) :
    found root handled <+: found root (handled ++ more) := by
  rw [found_append]
  exact List.prefix_append _ _

theorem found_append_of_mem (known : name ∈ found root handled) :
    found root (handled ++ [name]) = found root handled := by
  have inside : name ∈ root :: handled := List.mem_eraseDups.mp known
  have nothing : [name].removeAll (root :: handled) = [] := by
    simpa [List.removeAll, or_iff_not_imp_left] using inside
  rw [found_append, nothing, List.eraseDups_nil, List.append_nil]

theorem found_append_of_not_mem (fresh : name ∉ found root handled) :
    found root (handled ++ [name]) = found root handled ++ [name] := by
  have outside : name ∉ root :: handled := fun inside => fresh (List.mem_eraseDups.mpr inside)
  have kept : [name].removeAll (root :: handled) = [name] := by
    simpa [List.removeAll] using outside
  rw [found_append, kept]
  rfl

theorem pairwise_found (root : String) (handled : List String) :
    (found root handled).Pairwise fun first second =>
      (root :: handled).idxOf first < (root :: handled).idxOf second := by
  induction handled using List.reverseRecOn with
  | nil => exact List.pairwise_singleton _ _
  | append_singleton handled name ih =>
    have kept : ∀ other ∈ found root handled,
        (root :: (handled ++ [name])).idxOf other = (root :: handled).idxOf other := by
      intro other member
      rw [← List.cons_append, List.idxOf_append, if_pos (List.mem_eraseDups.mp member)]
    have early : (found root handled).Pairwise fun first second =>
        (root :: (handled ++ [name])).idxOf first < (root :: (handled ++ [name])).idxOf second := by
      refine ih.imp_of_mem fun member member' before => ?_
      rwa [kept _ member, kept _ member']
    by_cases known : name ∈ found root handled
    · rwa [found_append_of_mem known]
    · rw [found_append_of_not_mem known]
      refine List.pairwise_append.mpr ⟨early, List.pairwise_singleton _ _, ?_⟩
      intro other member last here
      obtain rfl := List.mem_singleton.mp here
      have inside := List.idxOf_lt_length_of_mem (List.mem_eraseDups.mp member)
      have outside : last ∉ root :: handled := fun within =>
        known (List.mem_eraseDups.mpr within)
      rw [kept other member, ← List.cons_append, List.idxOf_append, if_neg outside]
      omega

theorem nodup_found (root : String) (handled : List String) : (found root handled).Nodup :=
  (pairwise_found root handled).imp fun before same => by
    rw [same] at before
    exact Nat.lt_irrefl _ before

theorem idxOf_le_of_found {ahead behind : List String} {task other : String}
    (split : found root handled = ahead ++ [task] ++ behind) (member : other ∈ ahead ++ [task]) :
    (root :: handled).idxOf other ≤ (root :: handled).idxOf task := by
  have ordered := pairwise_found root handled
  rw [split] at ordered
  rcases List.mem_append.mp member with front | last
  · have first := (List.pairwise_append.mp ordered).1
    exact Nat.le_of_lt ((List.pairwise_append.mp first).2.2 other front task List.mem_cons_self)
  · rw [List.mem_singleton.mp last]

/-- A search that starts with the root and handles what the names found so far list, in turn. -/
structure Sweep (m : DependencyMap) (root : String) (handled : List String) : Prop where
  queued : handled <+: m.mentions (found root handled)
  reached : ∀ name ∈ found root handled, m.Reaches root name

theorem Sweep.start (m : DependencyMap) (root : String) : Sweep m root [] where
  queued := List.nil_prefix
  reached name member := by
    obtain rfl := List.mem_singleton.mp member
    exact .self m name

theorem Sweep.handle {more : List String} (sweep : Sweep m root handled)
    (waiting : handled ++ more <+: m.mentions (found root handled)) :
    Sweep m root (handled ++ more) where
  queued := waiting.trans (mentions_isPrefix (found_isPrefix root handled more))
  reached name member := by
    rcases mem_found.mp member with rfl | listed
    · exact .self m name
    · obtain ⟨task, within, lists⟩ := mem_mentions.mp (waiting.subset listed)
      exact (sweep.reached task within).of_listed lists

theorem Sweep.mem_found_iff (sweep : Sweep m root handled)
    (complete : handled = m.mentions (found root handled)) :
    name ∈ found root handled ↔ m.Reaches root name := by
  refine ⟨sweep.reached name, Reaches.mem_of_closed (mem_found.mpr (.inl rfl)) ?_⟩
  intro task member dependency lists
  refine mem_found.mpr (.inr ?_)
  rw [complete]
  exact mem_mentions.mpr ⟨task, member, lists⟩

/-- What comes up no later than a name is no farther from the root. The induction is on the way to
the later name: the earlier one is listed by the last task of that way or by one in front of it. -/
theorem Sweep.exists_reachesIn_le (sweep : Sweep m root handled)
    (complete : handled = m.mentions (found root handled))
    (reached : m.ReachesIn root steps name) :
    ∀ other ∈ root :: handled,
      (root :: handled).idxOf other ≤ (root :: handled).idxOf name →
      ∃ fewer ≤ steps, m.ReachesIn root fewer other := by
  induction reached with
  | root =>
    intro other member early
    by_cases first : root = other
    · exact ⟨0, Nat.le_refl _, first ▸ .root⟩
    · rw [List.idxOf_cons_self, List.idxOf_cons_ne _ first] at early
      exact absurd early (Nat.not_succ_le_zero _)
  | @step steps task name within lists ih =>
    intro other member early
    by_cases first : root = other
    · exact ⟨0, Nat.zero_le _, first ▸ .root⟩
    rw [List.idxOf_cons_ne _ first] at early
    have first' : root ≠ name := by
      rintro rfl
      rw [List.idxOf_cons_self] at early
      exact Nat.not_succ_le_zero _ early
    rw [List.idxOf_cons_ne _ first', Nat.succ_le_succ_iff] at early
    have here : task ∈ found root handled := (sweep.mem_found_iff complete).mpr within.reaches
    obtain ⟨ahead, behind, split⟩ := List.append_of_mem here
    rw [List.append_cons] at split
    rw [complete, split] at early
    obtain ⟨lister, inside, lists'⟩ := mem_mentions.mp (mem_mentions_of_idxOf_le lists early)
    have known : lister ∈ found root handled := split ▸ List.mem_append_left _ inside
    obtain ⟨fewer, less, within'⟩ :=
      ih lister (List.mem_eraseDups.mp known) (idxOf_le_of_found split inside)
    exact ⟨fewer + 1, Nat.succ_le_succ less, within'.step lists'⟩

theorem Sweep.breadthFirst (sweep : Sweep m root handled)
    (complete : handled = m.mentions (found root handled)) :
    BreadthFirst m root (found root handled) where
  distinct := nodup_found root handled
  mem_iff _ := sweep.mem_found_iff complete
  sorted := by
    refine (pairwise_found root handled).imp_of_mem fun {first second} member member' before => ?_
    have reached := sweep.reached first member
    have reached' := sweep.reached second member'
    obtain ⟨fewer, less, within⟩ := sweep.exists_reachesIn_le complete
      reached'.reachesIn_distance first (List.mem_eraseDups.mp member) (Nat.le_of_lt before)
    have near : m.distance root first ≤ m.distance root second :=
      Nat.le_trans within.distance_le less
    rcases Nat.lt_or_eq_of_le near with nearer | same
    · exact .inl nearer
    refine .inr ⟨same, (listedBefore_iff ..).mpr ?_⟩
    rw [← complete]
    have apart' : root ≠ second := by
      rintro rfl
      simp at before
    have apart : root ≠ first := by
      rintro rfl
      rw [distance_self, eq_comm, reached'.distance_eq_zero_iff] at same
      exact apart' same.symm
    simpa [List.idxOf_cons, apart, apart'] using before

/-- A search among finitely many names comes to an end: as long as something waits, handling all of
it finds a new name or leaves nothing that waits. -/
theorem Sweep.exists_breadthFirst {handled names : List String} (sweep : Sweep m root handled)
    (finite : ∀ name, m.Reaches root name → name ∈ names) :
    ∃ order, BreadthFirst m root order ∧ found root handled <+: order := by
  obtain ⟨more, waiting⟩ := sweep.queued
  have next : Sweep m root (handled ++ more) := sweep.handle (waiting ▸ List.prefix_refl _)
  have grown := found_isPrefix root handled more
  by_cases same : found root (handled ++ more) = found root handled
  · refine ⟨_, next.breadthFirst ?_, grown⟩
    rw [same, waiting]
  · have longer : (found root handled).length < (found root (handled ++ more)).length :=
      Nat.lt_of_le_of_ne grown.length_le fun equal => same (grown.eq_of_length equal).symm
    have bounded : (found root (handled ++ more)).length ≤ names.length :=
      (List.subperm_of_subset (nodup_found root _)
        fun name member => finite name (next.reached name member)).length_le
    obtain ⟨order, sorted, ahead⟩ := next.exists_breadthFirst finite
    exact ⟨order, sorted, grown.trans ahead⟩
termination_by names.length - (found root handled).length

end TaskRunner.DependencyMap
