import TaskRunner.Host.Shell.Builtin.Options
import TaskRunner.Host.Shell.Lookup
import TaskRunner.Host.Shell.Reader

/-! Commands about commands: aliases, what a name means, and where programs were found. -/

namespace TaskRunner.Host.Shell
namespace Builtin

def aliasLine (name text : Raw) : Raw := s!"{name}={quoted text}"

def setAlias (name text : Raw) (aliases : List (Raw × Raw)) : List (Raw × Raw) :=
  if (aliases.lookup name).isSome then
    aliases.map fun entry => if entry.1 = name then (name, text) else entry
  else aliases ++ [(name, text)]

/-- The name and the text of an alias that is set. An equals sign in front belongs to the name. -/
def splitAlias (argument : Raw) : Raw × Option Raw :=
  match argument.toList with
  | [] => ("", none)
  | c :: cs =>
    let name := cs.takeWhile (· ≠ '=')
    match cs.drop name.length with
    | _ :: text => (String.ofList (c :: name), some (String.ofList text))
    | [] => (argument, none)

def aliasOne (argument : Raw) : Run Bool := do
  match splitAlias argument with
  | (name, some text) =>
    Run.change fun s => { s with aliases := setAlias name text s.aliases }
    pure true
  | (name, none) =>
    match (← Run.shell).aliases.lookup name with
    | some text =>
      Run.sayLine (aliasLine name text)
      pure true
    | none =>
      Run.sayError s!"alias: {name} not found\n"
      pure false

def showAliases : Run Unit := do
  for (name, text) in inRows 39 (← Run.shell).aliases do
    Run.sayLine (aliasLine name text)

def alias_ (arguments : List Raw) : Run Nat := do
  if arguments.isEmpty then showAliases
  let done ← arguments.mapM aliasOne
  pure (if done.all id then 0 else 1)

def unaliasOne (name : Raw) : Run Bool := do
  let aliases := (← Run.shell).aliases
  if (aliases.lookup name).isSome then
    Run.change fun s => { s with aliases := aliases.filter (·.1 ≠ name) }
    pure true
  else
    Run.sayError s!"unalias: {name} not found\n"
    pure false

def unalias (arguments : List Raw) : Run Nat := do
  let (options, names) ← options "a" arguments
  if !options.isEmpty then
    Run.change fun s => { s with aliases := [] }
    pure 0
  else
    let done ← names.mapM unaliasOne
    pure (if done.all id then 0 else 1)

def describe (name : Raw) (path : Option Raw) (verbose : Bool) : Run Nat := do
  let s ← Run.shell
  if verbose then Run.say name
  if (Keyword.ofWord? name).isSome then
    Run.sayLine (if verbose then " is a shell keyword" else name)
    pure 0
  else
    match s.aliases.lookup name with
    | some text =>
      Run.sayLine (if verbose then s!" is an alias for {text}" else s!"alias {aliasLine name text}")
      pure 0
    | none =>
      match ← Lookup.inside? name path.isNone with
      | some (.function _) =>
        Run.sayLine (if verbose then " is a shell function" else name)
        pure 0
      | some (.own own) =>
        let kind := if own.isSpecial then "special " else ""
        Run.sayLine (if verbose then s!" is a {kind}shell builtin" else name)
        pure 0
      | _ =>
        let known := path.isNone && (s.found.lookup name).isSome
        let place ←
          if name.toList.contains '/' then do
            pure (((← Run.world).status? name).map fun _ => name)
          else Lookup.program name path
        match place with
        | .ok place =>
          let tracked := if known then " a tracked alias for" else ""
          Run.sayLine (if verbose then s!" is{tracked} {place}" else place)
          pure 0
        | .error _ =>
          if verbose then Run.sayLine ": not found"
          pure 127

def type (names : List Raw) : Run Nat := do
  let codes ← names.mapM fun name => describe name none true
  pure (codes.foldl (· ||| ·) 0)

/-- `command` when it only says what a name means. -/
def command (arguments : List Raw) : Run Nat := do
  let (options, operands) ← options "pvV" arguments
  let letters := options.map (·.1)
  let path := if letters.contains 'p' then some standardPath else none
  match operands with
  | name :: _ =>
    if letters.any (· ≠ 'p') then describe name path (letters.contains 'V') else pure 0
  | [] => pure 0

def hashOne (name : Raw) : Run Bool := do
  Run.change fun s => { s with found := s.found.filter (·.1 ≠ name) }
  match ← Lookup.find name true none with
  | .nothing => pure false
  | _ => pure true

def hash (arguments : List Raw) : Run Nat := do
  let (options, names) ← options "r" arguments
  if !options.isEmpty then
    Run.change fun s => { s with found := [] }
    pure 0
  else if names.isEmpty then
    for (_, place) in inRows 31 (← Run.shell).found do
      Run.sayLine place
    pure 0
  else
    let done ← names.mapM hashOne
    pure (if done.all id then 0 else 1)

end Builtin
end TaskRunner.Host.Shell
