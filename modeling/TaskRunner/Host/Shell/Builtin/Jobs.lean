import TaskRunner.Host.Shell.Builtin.Options
import TaskRunner.Host.Shell.Builtin.Signals

/-! Commands in the background. They run when somebody waits for them, the first ones first, or at
the end of the shell. A short one has a head start on whatever takes longer: it is run on trial, and
what it has done stays if it comes to its end in time. A job has a number of its own, which is free
again when the job has ended and was waited for. -/

namespace TaskRunner.Host.Shell
namespace Jobs

def atSlot? (jobs : List Job) (slot : Nat) : Option Job := jobs.find? (·.slot = slot)

/-- The first number that is free; an old job that has it is forgotten. -/
def freeSlot : Run Nat := do
  let jobs := (← Run.shell).jobs
  let isFree (slot : Nat) : Bool :=
    match atSlot? jobs slot with
    | some job => job.outcome.isSome && job.waited
    | none => true
  let slot := (((List.range (jobs.length + 1)).map (· + 1)).find? isFree).getD 1
  if !jobs.isEmpty then Run.change fun s => { s with jobs := s.jobs.filter (·.slot ≠ slot) }
  pure slot

def named (text : Raw) : Run Job := do
  let jobs := (← Run.shell).jobs
  let orFail (job : Option Job) (message : Raw) : Run Job :=
    match job with
    | some job => pure job
    | none => Run.fail message
  match text.toList with
  | ['%'] | ['%', '+'] | ['%', '%'] => orFail jobs.getLast? "No current job"
  | ['%', '-'] => orFail (jobs.dropLast.getLast?) "No previous job"
  | cs =>
    let job :=
      match cs with
      | '%' :: ds => (String.ofList ds).toNat?.bind (atSlot? jobs)
      | _ => none
    orFail job s!"No such job: {text}"

def changeJob (number : Nat) (f : Job → Job) : Run Unit :=
  Run.change fun s => { s with jobs := s.jobs.map fun j => if j.number = number then f j else j }

def run (job : Job) (deadline : Option Nat) : Run Unit := do
  let ended ← Run.act fun w =>
    let inside := { w with process := job.process, clock := job.begins, deadline }
    let back (after : World) : World :=
      { after with process := w.process, clock := max w.clock after.clock, deadline := w.deadline }
    match job.body inside with
    | .ok code after => .ok (Except.ok (ε := Signal) code) (back after)
    | .error signal after => .ok (.error signal) (back after)
  let (status, signal) :=
    match ended with
    | .ok code => (code, none)
    | .error signal => (signal.status, some signal)
  changeJob job.number fun j => { j with outcome := some status, signal }

def runAll (upTo : Option Nat) : Nat → Run Unit
  | 0 => pure ()
  | most + 1 => do
    match (← Run.shell).jobs.find? (·.outcome.isNone) with
    | none => pure ()
    | some job =>
      run job (← Run.world).deadline
      if upTo ≠ some job.number then runAll upTo most

/-- Runs a job on trial. If it is not at its end by then, nothing has happened, and it is due later. -/
def tryRun (by_ : Nat) (job : Job) : Run Unit := do
  if job.outcome.isNone then
    let before ← get
    let deadline := min by_ (before.world.deadline.getD by_)
    run job (some deadline)
    let after ← get
    if deadline < after.world.clock then
      set before
      changeJob job.number fun j => { j with due := by_ + 2 * (by_ - j.begins) }
    else set { after with world := { after.world with clock := before.world.clock } }

def slack : Nat := 20

def letAhead (time : Nat) : Run Unit := do
  let jobs := (← Run.shell).jobs
  if !jobs.isEmpty then
    let by_ := (← Run.world).clock + time + slack
    jobs.forM (tryRun by_)

/-- Lets time pass for a command. Jobs that are due get ahead of it. -/
def spend : Run Unit := do
  let jobs := (← Run.shell).jobs
  if !jobs.isEmpty then
    let now := (← Run.world).clock
    (jobs.filter fun job => job.outcome.isNone && job.due ≤ now).forM (tryRun now)
  Run.act (Act.spend 1)

def patience : Nat := 200

def start (body : Interpreter → Act Nat) (childShell : Interpreter → Interpreter) : Run Unit := do
  let slot ← freeSlot
  let shell ← Run.shell
  let w ← Run.world
  let number := w.nextProcess
  let process : Process :=
    { w.process with
      number, ancestors := w.process.number :: w.process.ancestors, unsaid := none }
  modify fun s => { s with world := { s.world with nextProcess := number + 1 } }
  let begins := w.clock + World.timeToFork
  let job : Job :=
    { slot, number, process, body := body (childShell shell), begins, due := begins + patience }
  Run.change fun s => { s with jobs := s.jobs ++ [job], lastJob := some number }

def awaitedSignal? : Run (Option Nat) := do
  let w ← Run.world
  pure ((w.signals.find? (·.1 = w.process.number)).map (·.2.number))

/-- Waits for a job and tells of a signal that ended it; there is no status if it is not known. -/
def await (number : Nat) : Run (Option Nat) := do
  let known (s : Interpreter) : Option Job := s.jobs.find? (·.number = number)
  match known (← Run.shell) with
  | none => pure none
  | some job =>
    if job.outcome.isNone then runAll (some number) unbounded
    match known (← Run.shell) with
    | some { outcome := some status, signal, .. } =>
      match signal.bind Builtin.signalText with
      | some text => Run.sayError (text ++ "\n")
      | none => pure ()
      changeJob number fun j => { j with signal := none, waited := true }
      pure (some status)
    | _ => pure none

def awaitEach : Nat → List Raw → Run Nat
  | status, [] => pure status
  | status, text :: rest => do
    let number ←
      if text.startsWith "%" then do pure (← named text).number else Run.count text
    let found ← await number
    match ← awaitedSignal? with
    | some signal => pure (128 + signal)
    | none => awaitEach (found.getD status) rest

def wait (arguments : List Raw) : Run Nat := do
  match ← Builtin.operands arguments with
  | [] =>
    runAll none unbounded
    Run.change fun s => { s with
      jobs := s.jobs.map fun job => { job with signal := none, waited := true } }
    match ← awaitedSignal? with
    | some signal => pure (128 + signal)
    | none => pure 0
  | numbers => awaitEach 127 numbers

def stateOf (job : Job) : String :=
  match job.outcome, job.signal.bind Builtin.signalText with
  | some _, some text => text
  | none, _ => "Running"
  | some 0, none => "Done"
  | some status, none => s!"Done({status})"

def lineWidth : Nat := 33

def show_ (letters : List Char) (job : Job) : Run Unit := do
  let jobs := (← Run.shell).jobs
  let isLast (all : List Job) : Bool := all.getLast?.any (·.slot = job.slot)
  let mark := if isLast jobs then '+' else if isLast jobs.dropLast then '-' else ' '
  if letters.contains 'p' then Run.sayLine (toString job.number)
  else
    let number := if letters.contains 'l' then s!"{job.number} " else ""
    let line := s!"[{job.slot}] {mark} {number}{stateOf job}"
    Run.sayLine (line ++ String.ofList (List.replicate (lineWidth - line.length) ' '))
  if job.outcome.isSome then
    Run.change fun s => { s with jobs := s.jobs.filter (·.slot ≠ job.slot) }

def list (arguments : List Raw) : Run Nat := do
  let (options, operands) ← Builtin.options "lp" arguments
  let letters := options.map (·.1)
  if operands.isEmpty then (← Run.shell).jobs.reverse.forM (show_ letters)
  else operands.forM fun text => do show_ letters (← named text)
  pure 0

def resume (arguments : List Raw) : Run Nat := do
  let text := ((← Builtin.operands arguments).head?).getD "%%"
  let _ ← named text
  Run.fail s!"job {text} not created under job control"

end Jobs
end TaskRunner.Host.Shell
