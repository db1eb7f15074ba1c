import TaskRunner.Host.Shell.Builtin.Jobs

/-! Sending signals. A process can reach itself, those that it descends from and its own jobs; a job
that is reached before it has run never runs. -/

namespace TaskRunner.Host.Shell
namespace Builtin

/-- Sends a signal to a process; answers whether there is one. A shell that has commands for the
signal carries them out later. -/
def send (number : Nat) (s : Signal) : Run Bool := do
  let shell ← Run.shell
  let w ← Run.world
  let post : Run Unit := modify fun state =>
    { state with world := { state.world with signals := state.world.signals ++ [(number, s)] } }
  if number = w.process.number then
    if s.number = 0 then pure true
    else
      match shell.traps[s.number]?, decide (s = Signal.kill) with
      | some text, false =>
        if text ≠ "" then post
        pure true
      | _, _ => if ends s then throw (.killed s) else pure true
  else if w.process.ancestors.contains number then
    if s.number ≠ 0 then post
    pure true
  else
    match shell.jobs.find? (·.number = number) with
    | some { outcome := none, .. } =>
      if s.number ≠ 0 && ends s then
        Run.change fun shell => { shell with
          jobs := shell.jobs.map fun job =>
            if job.number = number then { job with outcome := some s.status, signal := some s }
            else job }
      pure true
    | _ => pure false

def killUsage {α : Type} : Run α :=
  Run.fail ("Usage: kill [-s sigspec | -signum | -sigspec] [pid | job]... or\n" ++
    "kill -l [exitstatus]")

def listSignals : List Raw → Run Nat
  | [] => do
    Run.sayLine "0"
    for number in (List.range signalCount).drop 1 do
      Run.sayLine (signalName number)
    pure 0
  | text :: _ => do
    let number ← Run.count text
    let number := if 128 < number then number - 128 else number
    if 0 < number && number < signalCount then
      Run.sayLine (signalName number)
      pure 0
    else Run.fail s!"invalid signal number or exit status: {text}"

def sendAll (s : Signal) (processes : List Raw) : Run Nat := do
  let sent ← processes.mapM fun text => do
    let sent ←
      if text.startsWith "%" then do
        -- a job has no group of processes of its own
        let _ ← Jobs.named text
        pure false
      else if text.startsWith "-" then do
        let _ ← Run.count (String.ofList (text.toList.drop 1))
        pure false
      else send (← Run.count text) s
    if sent then pure true
    else
      Run.warn s!"{Errno.noProcess.text}\n"
      pure false
  pure (if sent.all id then 0 else 1)

def kill (arguments : List Raw) : Run Nat := do
  match arguments with
  | [] => killUsage
  | first :: rest =>
    let direct :=
      match first.toList with
      | '-' :: cs => signal? 1 (String.ofList cs)
      | _ => none
    match direct with
    | some number => if rest.isEmpty then killUsage else sendAll ⟨number⟩ rest
    | none =>
      let (options, processes) ← options "l" arguments "s"
      let chosen ← options.filterMapM fun (letter, value) =>
        if letter = 'l' then pure none
        else
          match signal? 1 value with
          | some number => pure (some number)
          | none => Run.fail s!"invalid signal number or name: {value}"
      if options.any (·.1 = 'l') then
        if chosen.isEmpty then listSignals processes else killUsage
      else if processes.isEmpty then killUsage
      else sendAll ⟨chosen.getLast?.getD 15⟩ processes

end Builtin
end TaskRunner.Host.Shell
