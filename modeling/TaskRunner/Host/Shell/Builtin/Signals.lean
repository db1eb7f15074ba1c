import TaskRunner.Host.Shell.Builtin.Options

/-! Signals by their names, and the commands that are carried out when one arrives. -/

namespace TaskRunner.Host.Shell
namespace Builtin

def signalNames : Array String :=
  #["EXIT", "HUP", "INT", "QUIT", "ILL", "TRAP", "ABRT", "BUS", "FPE", "KILL", "USR1", "SEGV",
    "USR2", "PIPE", "ALRM", "TERM", "STKFLT", "CHLD", "CONT", "STOP", "TSTP", "TTIN", "TTOU", "URG",
    "XCPU", "XFSZ", "VTALRM", "PROF", "WINCH", "IO", "PWR", "SYS"]

def signalCount : Nat := 65

def signalName (number : Nat) : String :=
  match signalNames[number]? with
  | some name => name
  | none =>
    if number = 34 then "RTMIN"
    else if number = 64 then "RTMAX"
    else if 34 < number && number ≤ 49 then s!"RTMIN+{number - 34}"
    else if 49 < number && number < 64 then s!"RTMAX-{64 - number}"
    else toString number

def signal? (least : Nat) (text : Raw) : Option Nat :=
  if !text.isEmpty && text.toList.all Char.isDigit then
    let number := text.toNat!
    if number < signalCount then some number else none
  else
    let upper := text.map Char.toUpper
    (List.range signalCount).find? fun number => least ≤ number && signalName number = upper

def ends (s : Signal) : Bool := !([17, 18, 19, 20, 21, 22, 23, 28].contains s.number)

def signalText (s : Signal) : Option String :=
  match s.number with
  | 1 => some "Hangup"
  | 2 | 13 => none
  | 3 => some "Quit"
  | 4 => some "Illegal instruction"
  | 5 => some "Trace/breakpoint trap"
  | 6 => some "Aborted"
  | 7 => some "Bus error"
  | 8 => some "Floating point exception"
  | 9 => some "Killed"
  | 10 => some "User defined signal 1"
  | 11 => some "Segmentation fault"
  | 12 => some "User defined signal 2"
  | 14 => some "Alarm clock"
  | 15 => some "Terminated"
  | 16 => some "Stack fault"
  | 24 => some "CPU time limit exceeded"
  | 25 => some "File size limit exceeded"
  | 26 => some "Virtual timer expired"
  | 27 => some "Profiling timer expired"
  | 29 => some "I/O possible"
  | 30 => some "Power failure"
  | 31 => some "Bad system call"
  | n => some (if 34 ≤ n then s!"Real-time signal {n - 34}" else s!"Unknown signal {n}")

def showTraps : Run Unit := do
  for (number, text) in (← Run.shell).traps.toList do
    Run.sayLine s!"trap -- {quoted text} {signalName number}"

def setTraps (text : Option Raw) : List Raw → Run Nat
  | [] => pure 0
  | name :: names => do
    match signal? 0 name with
    | none =>
      Run.sayError s!"trap: {name}: bad trap\n"
      pure 1
    | some number =>
      Run.change fun s => { s with
        traps :=
          match text with
          | some text => s.traps.insert number text
          | none => s.traps.erase number }
      setTraps text names

def trap (arguments : List Raw) : Run Nat := do
  match ← operands arguments with
  | [] =>
    showTraps
    pure 0
  | [name] => setTraps none [name]
  | "-" :: names => setTraps none names
  | text :: names => setTraps (some text) names

end Builtin
end TaskRunner.Host.Shell
