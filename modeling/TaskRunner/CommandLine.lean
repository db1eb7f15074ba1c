import TaskRunner.Options

/-! Reading the command line. Arguments are taken from left to right. A setting whose value is the
next argument stays open until something else is read, and is checked only when it is closed, so
that an argument which is no option at all is refused before a value that is missing or repeated. -/

namespace TaskRunner

inductive UsageError where
  | repeatedOption
  | missingValue
  | unexpectedValue
  | unknownOption
  deriving DecidableEq, Repr

inductive EarlyExit where
  | help
  | version
  | usage (cause : UsageError)
  deriving DecidableEq, Repr

namespace CommandLine

inductive Setting where
  | file
  | directory
  deriving DecidableEq, Repr

inductive Switch where
  | verbose
  | help
  | version
  deriving DecidableEq, Repr

def longOption? (name : List Char) : Option (Setting ⊕ Switch) :=
  match String.ofList name with
  | "file" => some (.inl .file)
  | "directory" => some (.inl .directory)
  | "verbose" => some (.inr .verbose)
  | "help" => some (.inr .help)
  | "version" => some (.inr .version)
  | _ => none

def shortOption? : Char → Option (Setting ⊕ Switch)
  | 'f' => some (.inl .file)
  | 'C' => some (.inl .directory)
  | 'v' => some (.inr .verbose)
  | 'h' => some (.inr .help)
  | 'V' => some (.inr .version)
  | _ => none

/-- What was read so far. `opened` is the setting that was read last, with its value if that was
the argument after it. -/
structure Reading where
  tasks : Array String := #[]
  file : Option String := none
  directory : Option String := none
  verbose : Bool := false
  opened : Option (Setting × Option String) := none

namespace Reading

def given (r : Reading) : Setting → Option String
  | .file => r.file
  | .directory => r.directory

def assign (r : Reading) (setting : Setting) (value : String) : Except EarlyExit Reading :=
  if (r.given setting).isSome then .error (.usage .repeatedOption)
  else if value = "" then .error (.usage .missingValue)
  else
    match setting with
    | .file => .ok { r with file := some value }
    | .directory => .ok { r with directory := some value }

def close (r : Reading) : Except EarlyExit Reading :=
  match r.opened with
  | none => .ok r
  | some (_, none) => .error (.usage .missingValue)
  | some (setting, some value) => { r with opened := none }.assign setting value

def openSetting (r : Reading) (setting : Setting) : Except EarlyExit Reading := do
  let r ← r.close
  .ok { r with opened := some (setting, none) }

def attach (r : Reading) (setting : Setting) (value : List Char) : Except EarlyExit Reading := do
  (← r.close).assign setting (String.ofList value)

def flip (r : Reading) (switch : Switch) : Except EarlyExit Reading := do
  let r ← r.close
  match switch with
  | .help => .error .help
  | .version => .error .version
  | .verbose =>
    if r.verbose then .error (.usage .repeatedOption) else .ok { r with verbose := true }

def long (r : Reading) (text : List Char) : Except EarlyExit Reading :=
  let name := text.takeWhile (· ≠ '=')
  let value := text.dropWhile (· ≠ '=')
  match longOption? name, value with
  | none, _ => .error (.usage .unknownOption)
  | some (.inl setting), [] => r.openSetting setting
  | some (.inl setting), _ :: value => r.attach setting value
  | some (.inr switch), [] => r.flip switch
  | some (.inr _), _ :: _ => .error (.usage .unexpectedValue)

/-- Reads the letters behind a single dash. A setting takes all that follows for its value, without
an equals sign in front, or the next argument if nothing follows. -/
def cluster (r : Reading) : List Char → Except EarlyExit Reading
  | [] => .ok r
  | c :: rest =>
    match shortOption? c, rest with
    | none, _ => .error (.usage .unknownOption)
    | some (.inl setting), [] => r.openSetting setting
    | some (.inl setting), '=' :: value => r.attach setting value
    | some (.inl setting), value => r.attach setting value
    | some (.inr switch), rest => do (← r.flip switch).cluster rest

def plain (r : Reading) (text : String) : Except EarlyExit Reading :=
  match r.opened with
  | some (setting, none) => .ok { r with opened := some (setting, some text) }
  | _ => do
    let r ← r.close
    .ok { r with tasks := r.tasks.push text }

/-- Reads all arguments. Two dashes alone make tasks of all that follow. -/
def arguments (r : Reading) : List String → Except EarlyExit Reading
  | [] => r.close
  | argument :: rest =>
    match argument.toList with
    | ['-', '-'] => do
      let r ← r.close
      .ok { r with tasks := r.tasks ++ rest }
    | '-' :: '-' :: text => do (← r.long text).arguments rest
    | '-' :: c :: text => do (← r.cluster (c :: text)).arguments rest
    | _ => do (← r.plain argument).arguments rest

end Reading

def fileVariable : String := "MAKESHIFT_FILE"
def directoryVariable : String := "MAKESHIFT_DIRECTORY"

def givenOr (given fallback : Option String) : Except EarlyExit (Option String) :=
  match given with
  | some value => .ok (some value)
  | none => if fallback = some "" then .error (.usage .missingValue) else .ok fallback

def parse (environment : String → Option String) (arguments : List String) :
    Except EarlyExit Options := do
  let r ← Reading.arguments {} arguments
  let file ← givenOr r.file (environment fileVariable)
  let directory ← givenOr r.directory (environment directoryVariable)
  let defaults : Options := {}
  .ok { tasks := r.tasks.toList, file := file.getD defaults.file, directory, verbose := r.verbose }

end CommandLine
end TaskRunner
