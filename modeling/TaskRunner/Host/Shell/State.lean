import Std.Data.TreeMap
import TaskRunner.Host.Shell.Syntax
import TaskRunner.Host.World

/-! What a shell knows while it runs: variables, parameters, functions, options, traps and where it
is in the script. What its own commands write is kept back until the command ends. A complaint names
the shell, the line and the command that complains. -/

namespace TaskRunner.Host.Shell

/-- A variable without a value can still be marked. -/
structure Variable where
  value : Option Raw
  exported : Bool := false
  readOnly : Bool := false

inductive Skip where
  | nothing
  | break_ (loops : Nat)
  | continue_ (loops : Nat)
  | function
  | text
  deriving DecidableEq, Repr

inductive Outer where
  | variable (name : Raw) (before : Option Variable)
  | options (before : List String)

structure Job where
  slot : Nat
  number : Nat
  process : Process
  body : Act Nat
  /-- When it comes to life, and when it should have ended if it was short. -/
  begins : Nat
  due : Nat
  outcome : Option Nat := none
  signal : Option Signal := none
  waited : Bool := false

structure Interpreter where
  name : Raw
  root : Nat
  parameters : List Raw := []
  bindings : Std.TreeMap Raw Variable := {}
  functions : Std.TreeMap Raw Statement := {}
  aliases : List (Raw × Raw) := []
  options : List String := []
  traps : Std.TreeMap Nat Raw := {}
  frames : List (List Outer) := []
  documents : Std.TreeMap Nat Document := {}
  nextDocument : Nat := 0
  found : List (Raw × Raw) := []
  jobs : List Job := []
  lastJob : Option Nat := none
  status : Nat := 0
  substitutionStatus : Nat := 0
  /-- The status to end with, as far as it is known. -/
  savedStatus : Option Nat := none
  skip : Skip := .nothing
  loops : Nat := 0
  depth : Nat := 0
  line : Nat := 0
  readLine : Nat := 1
  command : Option Raw := none
  tracing : Bool := false
  directory : Raw := ""
  optionIndex : Nat := 1
  optionOffset : Option Nat := none
  unwritten : List Raw := []
  unwrittenSize : Nat := 0
  writeFailed : Bool := false

structure State where
  shell : Interpreter
  world : World

inductive Halt where
  /-- A failure that ends a shell unless a command stops it. -/
  | failure
  | exit
  | finish
  | killed (signal : Signal)
  deriving DecidableEq, Repr

abbrev Run := EStateM Halt State

def unbounded : Nat := 1000000000000

namespace Run

def shell : Run Interpreter := return (← get).shell

def world : Run World := return (← get).world

def change (f : Interpreter → Interpreter) : Run Unit := modify fun s => { s with shell := f s.shell }

def act {α : Type} (a : Act α) : Run α := fun s =>
  match a s.world with
  | .ok value world => .ok value { s with world }
  | .error signal world => .error (.killed signal) { s with world }

def flush : Run Unit := do
  let s ← shell
  if s.unwrittenSize = 0 then pure ()
  else
    change fun s => { s with unwritten := [], unwrittenSize := 0 }
    match ← act (Act.write 1 (Raw.toArray (String.join s.unwritten.reverse))) with
    | .ok _ => pure ()
    | .error _ => change fun s => { s with writeFailed := true }

def roomForOutput : Nat := 8192

def say (text : Raw) : Run Unit := do
  change fun s =>
    { s with unwritten := text :: s.unwritten, unwrittenSize := s.unwrittenSize + text.length }
  if roomForOutput ≤ (← shell).unwrittenSize then flush

def sayLine (text : Raw) : Run Unit := say (text ++ "\n")

def sayError (text : Raw) : Run Unit := do
  let _ ← act (Act.write 2 (Raw.toArray text))

def warn (message : Raw) : Run Unit := do
  let s ← shell
  let command := (s.command.map (· ++ ": ")).getD ""
  sayError s!"{s.name}: {s.line}: {command}{message}\n"

def failWith {α : Type} (status : Nat) (halt : Halt) (message : Raw) : Run α := do
  change fun s => { s with status }
  warn message
  flush
  throw halt

def fail {α : Type} (message : Raw) : Run α := failWith 2 .failure message

def misread {α : Type} (line : Nat) (message : Raw) : Run α := do
  change fun s => { s with line }
  fail message

def hasOption (name : String) : Run Bool := return (← shell).options.contains name

def atLine (line : Nat) : Run Unit := change fun s => { s with line }

end Run
end TaskRunner.Host.Shell
