import TaskRunner.Action.Process
import TaskRunner.Proofs.Action.Words
import TaskRunner.Proofs.Execution.FailFast
import TaskRunner.Proofs.Graph.Worklist
import TaskRunner.Proofs.Notices

/-! What a run shows and answers whose actions are processes. The operating system is asked for one
command after the other, up to the first that does not succeed, and from its answers alone it can be
told how the run ends and what it prints. Nothing that a process left is lost, also not if it
failed, and nothing is taken for a success that did not run. -/

namespace TaskRunner
open Move

variable {σ : Type}

/-- On a Unix host the program of an action reaches up to the first space, and the words behind it
are the arguments; any other host has the command interpreter take the action as it is. -/
def Action.command (platform : Platform) (action : String) : Command :=
  match platform with
  | .unix =>
    let chars := action.toList
    ⟨String.ofList (chars.takeWhile (· ≠ ' ')), wordsOf (pieces (chars.dropWhile (· ≠ ' ')))⟩
  | .windows => ⟨"cmd.exe", ["/C", action]⟩

theorem Action.ofAction_eq_command (platform : Platform) (action : String) :
    .ofAction platform action = command platform action := by
  cases platform with
  | windows => rfl
  | unix =>
    have arguments :=
      splitArguments_eq_wordsOf (String.ofList (action.toList.dropWhile (· ≠ ' ')))
    rw [String.toList_ofList] at arguments
    exact congrArg (Command.mk _) arguments

/-- An action whose command was given to the operating system, with the answer. -/
structure Call where
  action : String
  answer : Except IoError ProcessEnd

namespace Call

def succeeded (call : Call) : Bool :=
  match call.answer with
  | .ok process => process.exitCode = some 0
  | .error _ => false

/-- What the process left on its two streams. One that was not launched left nothing. -/
def captured (call : Call) : Bytes :=
  match call.answer with
  | .ok process => process.output ++ process.errors
  | .error _ => []

/-- The error that stands for a call that did not succeed. -/
inductive FailedWith : Call → ActionError → Prop
  | launch (action : String) (cause : IoError) :
      FailedWith ⟨action, .error cause⟩ ⟨action, .launch cause⟩
  | exitStatus (action : String) {process : ProcessEnd} (nonzero : process.exitCode ≠ some 0) :
      FailedWith ⟨action, .ok process⟩ ⟨action, .exitStatus process.exitCode⟩

theorem FailedWith.not_succeeded {call : Call} {e : ActionError} (failed : call.FailedWith e) :
    call.succeeded = false := by
  cases failed with
  | launch => rfl
  | exitStatus _ nonzero => exact decide_eq_false nonzero

def report (call : Call) : ActionReport :=
  match call.answer with
  | .ok process => process.report
  | .error cause => { failure := some (.launch cause) }

theorem output_report (call : Call) : call.report.output = call.captured := by
  rcases call with ⟨_, _ | _⟩ <;> rfl

theorem failure_report_eq_none (call : Call) :
    call.report.failure = none ↔ call.succeeded = true := by
  rcases call with ⟨action, cause | process⟩
  · exact iff_of_false nofun nofun
  · simp [report, ProcessEnd.report, succeeded]

theorem failedWith_of_report {call : Call} {failure : ActionFailure}
    (failed : call.report.failure = some failure) : call.FailedWith ⟨call.action, failure⟩ := by
  rcases call with ⟨action, cause | process⟩
  · cases failed
    exact .launch action cause
  · have nonzero : process.exitCode ≠ some 0 := by
      intro zero
      have accepted := (failure_report_eq_none ⟨action, .ok process⟩).mpr (decide_eq_true zero)
      cases accepted.symm.trans failed
    cases (if_neg nonzero).symm.trans failed
    exact .exitStatus action nonzero

end Call

namespace OperatingSystem

variable (os : OperatingSystem σ) (platform : Platform)

def call (action : String) (state : σ) : Call :=
  ⟨action, (os (Action.command platform action) state).1⟩

/-- What comes of these actions in turn, up to the first whose command does not succeed. -/
def calls : σ → List String → List Call
  | _, [] => []
  | state, action :: actions =>
    os.call platform action state ::
      if (os.call platform action state).succeeded then
        calls (os (Action.command platform action) state).2 actions
      else []

def after (state : σ) (actions : List String) : σ :=
  actions.foldl (fun state action => (os (Action.command platform action) state).2) state

variable {os platform} {state : σ}

theorem processRunner_eq (action : String) (state : σ) :
    processRunner platform os action state =
      ((os.call platform action state).report, (os (Action.command platform action) state).2) := by
  unfold processRunner call
  rw [Action.ofAction_eq_command]
  rcases os (Action.command platform action) state with ⟨_ | _, _⟩ <;> rfl

theorem acceptsAll_cons_iff {action : String} {actions : List String} :
    (processRunner platform os).AcceptsAll state (action :: actions) ↔
      (os.call platform action state).succeeded = true ∧
        (processRunner platform os).AcceptsAll (os (Action.command platform action) state).2
          actions := by
  rw [Runner.AcceptsAll, Runner.reports, List.forall_mem_cons, processRunner_eq,
    Call.failure_report_eq_none]
  rfl

theorem after_cons (action : String) (actions : List String) :
    (processRunner platform os).after state (action :: actions) =
      (processRunner platform os).after (os (Action.command platform action) state).2 actions := by
  rw [Runner.after, processRunner_eq]

theorem after_processRunner (actions : List String) :
    (processRunner platform os).after state actions = os.after platform state actions := by
  induction actions generalizing state with
  | nil => rfl
  | cons action actions ih => rw [after_cons, ih, after, after, List.foldl_cons]

theorem calls_of_succeeded {action : String}
    (succeeded : (os.call platform action state).succeeded = true) (actions : List String) :
    os.calls platform state (action :: actions) = os.call platform action state ::
      os.calls platform (os (Action.command platform action) state).2 actions := by
  rw [calls, if_pos succeeded]

theorem calls_of_failed {action : String}
    (failed : (os.call platform action state).succeeded = false) (actions : List String) :
    os.calls platform state (action :: actions) = [os.call platform action state] := by
  rw [calls, failed, if_neg Bool.false_ne_true]

theorem calls_append {first : List String}
    (accepted : (processRunner platform os).AcceptsAll state first) (second : List String) :
    os.calls platform state (first ++ second) = os.calls platform state first ++
      os.calls platform ((processRunner platform os).after state first) second := by
  induction first generalizing state with
  | nil => rfl
  | cons action first ih =>
    obtain ⟨succeeded, accepted'⟩ := acceptsAll_cons_iff.mp accepted
    rw [List.cons_append, calls_of_succeeded succeeded, calls_of_succeeded succeeded, after_cons,
      ih accepted', List.cons_append]

theorem calls_of_accepts {actions : List String}
    (accepted : (processRunner platform os).AcceptsAll state actions) :
    (os.calls platform state actions).map (·.action) = actions ∧
      ∀ call ∈ os.calls platform state actions, call.succeeded = true := by
  induction actions generalizing state with
  | nil => exact ⟨rfl, nofun⟩
  | cons action actions ih =>
    obtain ⟨succeeded, accepted'⟩ := acceptsAll_cons_iff.mp accepted
    obtain ⟨same, all⟩ := ih accepted'
    rw [calls_of_succeeded succeeded]
    exact ⟨congrArg (action :: ·) same, List.forall_mem_cons.mpr ⟨succeeded, all⟩⟩

theorem calls_of_refuses {actions : List String} {e : ActionError}
    (refused : (processRunner platform os).Refuses state actions e) (later : List String) :
    ∃ before last, os.calls platform state (actions ++ later) = before ++ [last] ∧
      (∀ call ∈ before, call.succeeded = true) ∧ last.FailedWith e ∧
      (before ++ [last]).map (·.action) = actions := by
  obtain ⟨before, rfl, accepted, failed⟩ := refused
  obtain ⟨same, all⟩ := calls_of_accepts accepted
  rw [processRunner_eq] at failed
  have last := Call.failedWith_of_report failed
  refine ⟨os.calls platform state before, os.call platform e.action
    ((processRunner platform os).after state before), ?_, all, last, ?_⟩
  · rw [List.append_assoc, calls_append accepted, List.singleton_append,
      calls_of_failed last.not_succeeded]
  · rw [List.map_append, same]
    rfl

end OperatingSystem

namespace Runner

variable {runner : Runner σ} {state : σ}

def annotate (runner : Runner σ) : σ → List Event → List Event
  | _, [] => []
  | state, .started name :: events => .started name :: runner.annotate state events
  | state, .ran action _ :: events =>
    .ran action (runner action state).1.output :: runner.annotate (runner action state).2 events
  | state, .finished name :: events => .finished name :: runner.annotate state events

theorem annotate_append (first second : List Event) :
    runner.annotate state (first ++ second) = runner.annotate state first ++
      runner.annotate (runner.after state (first.filterMap Event.action?)) second := by
  induction first generalizing state with
  | nil => rfl
  | cons event first ih => cases event <;> exact congrArg _ ih

theorem annotate_silent (events : List Event) :
    runner.annotate state (events.map Event.silent) = runner.annotate state events := by
  induction events generalizing state with
  | nil => rfl
  | cons event events ih => cases event <;> exact congrArg (List.cons _) ih

end Runner

namespace Execution

variable {runner : Runner σ} {state : σ} {x after : Execution σ}

/-- The events of an execution tell of every action what its runner had to show. -/
structure Faithful (runner : Runner σ) (state : σ) (x : Execution σ) : Prop where
  events_eq : x.events.toList = runner.annotate state x.events.toList
  runner_eq : x.runner = runner.after state x.executedActions

theorem Faithful.notice (faithful : x.Faithful runner state) {event : Event}
    (told : ∀ now, runner.annotate now [event] = [event]) (silent : event.action? = none)
    (events : after.events = x.events.push event) (same : after.runner = x.runner) :
    after.Faithful runner state := by
  have executed : after.executedActions = x.executedActions := by
    rw [executedActions, events, Array.toList_push, List.filterMap_append,
      List.filterMap_cons_none silent]
    exact List.append_nil _
  refine ⟨?_, ?_⟩
  · rw [events, Array.toList_push, Runner.annotate_append, ← faithful.events_eq, told]
  · rw [same, executed, faithful.runner_eq]

theorem Faithful.start (faithful : x.Faithful runner state) (id : Nat) :
    (x.start id).Faithful runner state :=
  faithful.notice (fun _ => rfl) rfl rfl rfl

theorem Faithful.finish (faithful : x.Faithful runner state) (id : Nat) (below : List Graph.Frame) :
    (x.finish id below).Faithful runner state :=
  faithful.notice (fun _ => rfl) rfl rfl rfl

theorem Faithful.runAction (faithful : x.Faithful runner state) (action : String) :
    (x.runAction runner action).2.Faithful runner state := by
  have events : (x.runAction runner action).2.events.toList =
      x.events.toList ++ [.ran action (runner action x.runner).1.output] := Array.toList_push
  refine ⟨?_, ?_⟩
  · rw [events, Runner.annotate_append, ← faithful.events_eq, faithful.runner_eq]
    rfl
  · rw [executedActions, events, List.filterMap_append, Runner.after_append]
    show _ = runner.after (runner.after state x.executedActions) [action]
    rw [← faithful.runner_eq]
    rfl

theorem Faithful.runActions (faithful : x.Faithful runner state) (actions : List String) :
    (x.runActions runner actions).2.Faithful runner state := by
  induction actions generalizing x with
  | nil => exact faithful
  | cons action actions ih =>
    have next := faithful.runAction action
    unfold Execution.runActions
    rcases answered : x.runAction runner action with ⟨_ | failure, ran⟩
    all_goals rw [answered] at next
    · exact ih next
    · exact next

theorem Faithful.step (faithful : x.Faithful runner state) (store : Store) :
    (x.step runner store).2.Faithful runner state := by
  rcases stepped : x.step runner store with ⟨_ | answer, after⟩
  · have withStack (stack : List Graph.Frame) : (x.withStack stack).Faithful runner state :=
      ⟨faithful.events_eq, faithful.runner_eq⟩
    rcases step_cases stepped with ⟨_, child, _, _, _, _, rfl⟩ | ⟨_, _, _, _, _, _, rfl⟩ |
      ⟨node, below, ran, _, answered, rfl⟩
    · exact (withStack _).start child
    · exact withStack _
    · have next := faithful.runActions (store.actions (x.graph.name node))
      rw [answered] at next
      exact next.finish node below
  · rcases step_answer stepped with ⟨_, _, rfl⟩ | ⟨node, _, _, _, answered, _⟩
    · exact faithful
    · have next := faithful.runActions (store.actions (x.graph.name node))
      rwa [answered] at next

theorem Faithful.run (faithful : x.Faithful runner state) (store : Store) :
    (x.run runner store).2.Faithful runner state := by
  fun_induction Execution.run runner store x with
  | case1 x after stepped ih =>
    have next := faithful.step store
    rw [stepped] at next
    exact ih next
  | case2 x answer after stepped =>
    have next := faithful.step store
    rwa [stepped] at next

theorem faithful_begin (runner : Runner σ) (g : Graph) (state : σ) :
    (begin g state).Faithful runner state := by
  unfold begin
  split
  · exact ⟨rfl, rfl⟩
  · exact Faithful.start ⟨rfl, rfl⟩ _

end Execution

theorem satisfyRoot_faithful (runner : Runner σ) (store : Store) (g : Graph) (state : σ) :
    (satisfyRoot runner store g state).2.Faithful runner state := by
  rw [satisfyRoot_eq_run]
  exact (Execution.faithful_begin runner g state).run store

/-- What a run of these events prints: the notices, and at the place of each action what its call
left, up to and with the first call that did not succeed. -/
def shown (color : Bool) : List Event → List Call → Bytes
  | [], _ => []
  | .ran _ _ :: _, [] => []
  | .ran _ _ :: events, call :: calls =>
    call.captured ++ if call.succeeded then shown color events calls else []
  | .started name :: events, calls =>
    (startedNotice color name).toUTF8.data.toList ++ shown color events calls
  | .finished name :: events, calls =>
    (finishedNotice color name).toUTF8.data.toList ++ shown color events calls

section Shown
variable {platform : Platform} {os : OperatingSystem σ} {state : σ} (color : Bool)

theorem shown_append {first : List Event}
    (accepted : (processRunner platform os).AcceptsAll state (first.filterMap Event.action?))
    (second : List Event) (later : List String) :
    shown color (first ++ second)
        (os.calls platform state (first.filterMap Event.action? ++ later)) =
      Event.renderAll color ((processRunner platform os).annotate state first) ++
        shown color second (os.calls platform
          ((processRunner platform os).after state (first.filterMap Event.action?)) later) := by
  induction first generalizing state with
  | nil => rfl
  | cons event first ih =>
    cases event with
    | started name =>
      refine (congrArg (_ ++ ·) (ih accepted)).trans ?_
      rw [← render_started, ← List.append_assoc]
      rfl
    | finished name =>
      refine (congrArg (_ ++ ·) (ih accepted)).trans ?_
      rw [← render_finished, ← List.append_assoc]
      rfl
    | ran action output =>
      obtain ⟨succeeded, accepted'⟩ := OperatingSystem.acceptsAll_cons_iff.mp accepted
      have actions : (Event.ran action output :: first).filterMap Event.action? =
          action :: first.filterMap Event.action? := rfl
      rw [actions, List.cons_append, List.cons_append, OperatingSystem.calls_of_succeeded succeeded,
        shown, if_pos succeeded, ih accepted', OperatingSystem.after_cons, Runner.annotate,
        OperatingSystem.processRunner_eq, Call.output_report, ← List.append_assoc]
      rfl

theorem shown_of_accepts {events : List Event}
    (accepted : (processRunner platform os).AcceptsAll state (events.filterMap Event.action?)) :
    shown color events (os.calls platform state (events.filterMap Event.action?)) =
      Event.renderAll color ((processRunner platform os).annotate state events) := by
  have all := shown_append color accepted [] []
  rwa [List.append_nil, List.append_nil, shown, List.append_nil] at all

theorem shown_of_refuses {first : List Event} {e : ActionError}
    (refused : (processRunner platform os).Refuses state
      (first.filterMap Event.action? ++ [e.action]) e) (second : List Event) :
    let script := first ++ .ran e.action [] :: second
    shown color script (os.calls platform state (script.filterMap Event.action?)) =
      Event.renderAll color
        ((processRunner platform os).annotate state (first ++ [.ran e.action []])) := by
  intro script
  obtain ⟨before, split, accepted, failed⟩ := refused
  obtain ⟨rfl, _⟩ := List.append_inj' split rfl
  rw [OperatingSystem.processRunner_eq] at failed
  have last := (Call.failedWith_of_report failed).not_succeeded
  have actions : script.filterMap Event.action? =
      first.filterMap Event.action? ++ e.action :: second.filterMap Event.action? :=
    List.filterMap_append
  rw [actions, shown_append color accepted, OperatingSystem.calls_of_failed last, shown, last,
    if_neg Bool.false_ne_true, Runner.annotate_append, Runner.annotate,
    OperatingSystem.processRunner_eq, Call.output_report, Event.renderAll, Event.renderAll,
    List.flatMap_append]
  rfl

end Shown

theorem Walk.actions_perm {g : Graph} {declared : Store} {root : String} {moves : List Move}
    (closed : g.Closure declared root) (acyclic : g.Acyclic)
    (fresh : ∀ id, id < g.size → g.satisfied id = false)
    (walk : Walk g g.satisfied [g.root] moves) (store : Store) :
    (g.names.flatMap store.actions).Perm
      ((moves.flatMap (Move.trace g store)).filterMap Event.action?) := by
  have all : (List.range g.size).Perm (exits moves) := by
    rw [List.perm_ext_iff_of_nodup List.nodup_range (walk.nodup_exits acyclic)]
    exact fun id => List.mem_range.trans (walk.mem_exits_iff closed fresh id).symm
  rw [filterMap_action?_trace, Graph.names_eq_map, List.flatMap_map]
  exact all.flatMap_right _

theorem not_subperm_succeeded {later : List String} {before : List Call} {last : Call}
    (failed : last.succeeded = false) :
    ¬ ((before ++ [last]).map (·.action) ++ later).Subperm
      (((before ++ [last]).filter (·.succeeded)).map (·.action)) := by
  intro inside
  have few : ((before ++ [last]).filter (·.succeeded)).length ≤ before.length := by
    rw [List.filter_append, List.filter_cons_of_neg (Bool.eq_false_iff.mp failed), List.filter_nil,
      List.append_nil]
    exact List.length_filter_le ..
  have many := inside.length_le
  rw [List.length_append, List.length_map, List.length_map, List.length_append,
    List.length_singleton] at many
  omega

section Script
variable {g : Graph} {store : Store} {moves : List Move} {platform : Platform}
  {os : OperatingSystem σ} {state : σ} {x : Execution σ}
  (faithful : x.Faithful (processRunner platform os) state)
include faithful

theorem Execution.Faithful.events_of_trace :
    x.events.toList = (processRunner platform os).annotate state x.trace :=
  faithful.events_eq.trans (Runner.annotate_silent _).symm

/-- After the moves of a script all its actions were called, and what they left is shown. -/
theorem Performed.calls_eq
    (performed : Performed g store (processRunner platform os) state moves x.progress)
    (color : Bool) :
    let script := moves.flatMap (Move.trace g store)
    let calls := os.calls platform state (script.filterMap Event.action?)
    calls.map (·.action) = script.filterMap Event.action? ∧
      (∀ call ∈ calls, call.succeeded = true) ∧ x.executedActions = calls.map (·.action) ∧
      Event.renderAll color x.events.toList = shown color script calls := by
  intro script calls
  have trace : x.trace = script := performed.trace
  have given : x.executedActions = script.filterMap Event.action? := trace ▸ x.executedActions_eq
  have accepted : (processRunner platform os).AcceptsAll state
      (script.filterMap Event.action?) := given ▸ performed.accepted
  obtain ⟨same, all⟩ := OperatingSystem.calls_of_accepts accepted
  refine ⟨same, all, given.trans same.symm, ?_⟩
  rw [faithful.events_of_trace, trace, shown_of_accepts color accepted]

/-- A run that halted called the actions of its script up to the one that was refused, and shows
what that one left. -/
theorem Halted.calls_eq {front back : List Move} {id : Nat} {e : ActionError}
    (halted : Halted g store (processRunner platform os) state front id e x.progress)
    (split : moves = front ++ .leave id :: back) (color : Bool) :
    let script := moves.flatMap (Move.trace g store)
    let calls := os.calls platform state (script.filterMap Event.action?)
    ∃ before last, calls = before ++ [last] ∧ (∀ call ∈ before, call.succeeded = true) ∧
      last.FailedWith e ∧ x.executedActions = (before ++ [last]).map (·.action) ∧
      ∃ later, script.filterMap Event.action? = (before ++ [last]).map (·.action) ++ later ∧
        Event.renderAll color x.events.toList = shown color script calls := by
  intro script calls
  obtain ⟨first, rest, trace, script_eq⟩ := halted.breaks_off split
  have given : x.executedActions = first.filterMap Event.action? ++ [e.action] := by
    rw [x.executedActions_eq, Execution.trace, trace, List.filterMap_append]
    rfl
  have wanted : script.filterMap Event.action? =
      first.filterMap Event.action? ++ [e.action] ++ rest.filterMap Event.action? := by
    rw [List.append_assoc]
    exact (congrArg _ script_eq).trans List.filterMap_append
  have refused : (processRunner platform os).Refuses state
      (first.filterMap Event.action? ++ [e.action]) e := given ▸ halted.refused
  obtain ⟨before, last, tried, all, failed, same⟩ :=
    OperatingSystem.calls_of_refuses refused (rest.filterMap Event.action?)
  refine ⟨before, last, (congrArg (os.calls platform state) wanted).trans tried, all, failed,
    given.trans same.symm, rest.filterMap Event.action?, same ▸ wanted, ?_⟩
  rw [faithful.events_of_trace, Execution.trace, trace, ← shown_of_refuses color refused rest,
    ← script_eq]

end Script

/-- A run whose actions are processes shows the notices of the walk, and at the place of each action
what its process left, up to the first that did not succeed. It answers with success if no action of
a task is missing from those that succeeded, and otherwise says how the last one failed. -/
theorem satisfyRoot_processes {declared : Store} {root : String} {g : Graph}
    (built : Graph.build root declared = .ok g) (accepted : g.ensureAcyclic.1 = .ok ())
    (platform : Platform) (os : OperatingSystem σ) (store : Store) (state : σ) (color : Bool) :
    let fresh := g.ensureAcyclic.2
    let ended := satisfyRoot (processRunner platform os) store fresh state
    ∃ moves, Walk fresh fresh.satisfied [fresh.root] moves ∧
      let script := moves.flatMap (Move.trace fresh store)
      let calls := os.calls platform state (script.filterMap Event.action?)
      ended.2.executedActions = calls.map (·.action) ∧
      ended.2.runner = os.after platform state (calls.map (·.action)) ∧
      ((∃ finished, ended.1 = .ok finished) ↔
        (fresh.names.flatMap store.actions).Subperm
          ((calls.filter (·.succeeded)).map (·.action))) ∧
      Event.renderAll color ended.2.events.toList = shown color script calls ∧
      ∀ e, ended.1 = .error e → ∃ before last, calls = before ++ [last] ∧
        (∀ call ∈ before, call.succeeded = true) ∧ last.FailedWith e := by
  intro fresh ended
  have closed := Graph.closure_of_checked built
  have acyclic := Graph.acyclic_of_accepted built accepted
  have founded := closed.founded acyclic
  obtain ⟨moves, walk⟩ := Walk.exists_of_founded founded fresh.satisfied [fresh.root]
  refine ⟨moves, walk, ?_⟩
  intro script calls
  have stored := walk.actions_perm closed acyclic (Graph.fresh_ensureAcyclic built) store
  have faithful := satisfyRoot_faithful (processRunner platform os) store fresh state
  have handed : ended.2.runner = os.after platform state ended.2.executedActions :=
    faithful.runner_eq.trans (OperatingSystem.after_processRunner _)
  rcases satisfyRoot_performs founded acyclic walk (processRunner platform os) store state with
    ⟨answer, performed⟩ | ⟨front, id, back, e, split, answer, halted⟩
  -- The script is performed to its end, so the calls are all the actions that are stored.
  · obtain ⟨same, all, told, shows⟩ := performed.calls_eq faithful color
    refine ⟨told, told ▸ handed, iff_of_true ⟨_, answer⟩ ?_, shows, fun e refused => ?_⟩
    · rw [List.filter_eq_self.mpr all, same]
      exact stored.subperm
    · cases answer.symm.trans refused
  -- The script breaks off behind an action that is among the calls but did not succeed.
  · obtain ⟨before, last, broken_off, all, failed, given, rest, wanted, shows⟩ :=
      halted.calls_eq faithful split color
    have calls_eq : calls = before ++ [last] := broken_off
    have told : ended.2.executedActions = calls.map (·.action) := by rw [calls_eq, ← given]
    refine ⟨told, told ▸ handed, iff_of_false ?_ ?_, shows,
      fun e' refused => ⟨before, last, calls_eq, all, ?_⟩⟩
    · rintro ⟨finished, answer'⟩
      cases answer.symm.trans answer'
    · intro inside
      have inside' := stored.symm.subperm.trans inside
      rw [wanted, calls_eq] at inside'
      exact not_subperm_succeeded failed.not_succeeded inside'
    · cases answer.symm.trans refused
      exact failed

def archiverFails : OperatingSystem (List Command) := fun command given =>
  if command.program = "ar" then (.ok { exitCode := some 2, errors := [33, 10] }, given ++ [command])
  else (.ok { output := [46, 10] }, given ++ [command])

theorem satisfyRoot_processes_archiver :
    ∃ g, Graph.build "all" sharedLibrary = .ok g ∧ g.ensureAcyclic.1 = .ok () ∧
      let ended := satisfyRoot (processRunner .unix archiverFails) libraryActions
        g.ensureAcyclic.2 []
      ended.1 = .error ⟨"ar", .exitStatus (some 2)⟩ ∧
      Event.renderAll false ended.2.events.toList =
        ("\"all\" task is started.\n\"tool\" task is started.\n\"lib\" task is started.\n" ++
          ".\n!\n").toUTF8.data.toList ∧
      ended.2.runner = [⟨"cc", []⟩, ⟨"ar", []⟩] ∧
      ∃ script calls, calls.map (·.action) = ["cc", "ar"] ∧
        archiverFails.after .unix [] (calls.map (·.action)) = [⟨"cc", []⟩, ⟨"ar", []⟩] ∧
        ¬ (g.ensureAcyclic.2.names.flatMap libraryActions.actions).Subperm
          ((calls.filter (·.succeeded)).map (·.action)) ∧
        Event.renderAll false ended.2.events.toList = shown false script calls ∧
        ∃ before last, calls = before ++ [last] ∧ (∀ call ∈ before, call.succeeded = true) ∧
          last.FailedWith ⟨"ar", .exitStatus (some 2)⟩ := by
  have observed : (Graph.build "all" sharedLibrary).map (fun g =>
      let ended := satisfyRoot (processRunner .unix archiverFails) libraryActions
        g.ensureAcyclic.2 []
      (g.ensureAcyclic.1, ended.1, ended.2.events.toList, ended.2.runner)) =
        .ok (.ok (), .error ⟨"ar", .exitStatus (some 2)⟩,
          [.started "all", .started "tool", .started "lib", .ran "cc" [46, 10], .ran "ar" [33, 10]],
          [⟨"cc", []⟩, ⟨"ar", []⟩]) := by
    cbv
  obtain ⟨g, built, seen⟩ := Graph.exists_of_build_map observed
  simp only [Prod.mk.injEq] at seen
  obtain ⟨accepted, refused, events, handed⟩ := seen
  obtain ⟨_, _, tried, answered, succeeds, shows, fails⟩ :=
    satisfyRoot_processes built accepted .unix archiverFails libraryActions [] false
  refine ⟨g, built, accepted, refused, ?_, handed, _, _, ?_, answered.symm.trans handed,
    fun all => ?_, shows, fails _ refused⟩
  · rw [events]
    decide
  · rw [← tried, Execution.executedActions, events]
    rfl
  · obtain ⟨_, answer⟩ := succeeds.mpr all
    cases refused.symm.trans answer

end TaskRunner
