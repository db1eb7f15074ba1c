import TaskRunner.Build
import TaskRunner.CommandLine
import TaskRunner.Host

/-! The program as it is called: arguments, an environment and a host to work on. Everything it says
goes to standard output, also the one message of a run that failed. A command line that cannot be
read is answered by the exit code alone. -/

namespace TaskRunner

structure Invocation where
  arguments : List String
  environment : String → Option String
  terminal : Bool := false

structure InvocationEnd where
  exitCode : Nat
  output : Bytes := []
  host : Host

namespace Invocation

/-- The variables of the environment that a call looks at or passes on. -/
def variableNames : List String :=
  [CommandLine.fileVariable, CommandLine.directoryVariable, "NO_COLOR", "CLICOLOR",
    "CLICOLOR_FORCE", "RUST_LOG"]

def hostFor (i : Invocation) (host : Host) : Host :=
  let set := variableNames.filterMap fun name =>
    (i.environment name).map fun value => (Host.Raw.ofText name, Host.Raw.ofText value)
  { host with environment := host.environment ++ set }

/-- Colours can be forced; otherwise a terminal shows them unless they are turned off. -/
def color (i : Invocation) : Bool :=
  match i.environment "CLICOLOR_FORCE" with
  | some value => value ≠ "0" || unforced
  | none => unforced
where
  unforced : Bool :=
    (i.environment "NO_COLOR").isNone && (i.environment "CLICOLOR") ≠ some "0" && i.terminal

def versionText : String := "makeshift 0.1.0\n"

def helpText : String :=
  "Run a task and everything it depends on, exactly once, in order.\n\n" ++
  "Usage: makeshift [OPTIONS] [TASK]\n\n" ++
  "Options:\n" ++
  "  -f, --file <FILE>            The task file to read\n" ++
  "  -C, --directory <DIRECTORY>  The directory to work in\n" ++
  "  -v, --verbose                Print diagnostic logging\n" ++
  "  -h, --help                   Print help\n" ++
  "  -V, --version                Print version\n"

def say (color : Bool) (style : Style) (mark text : String) : Bytes :=
  Bytes.ofString (style.apply color mark ++ text ++ "\n")

def runTask (i : Invocation) (options : Options) (target : Option String) (host : Host) :
    InvocationEnd :=
  let path := options.taskFilePath
  let runner := processRunner .unix (Host.launch options.directory)
  let outcome := build { path, target } (host.contentOf path) runner host
  let shown := Event.renderAll i.color outcome.events
  match outcome.answer with
  | .ok report =>
    let text := s!" \"{report.root}\" is up to date ({report.finished.length} task(s) satisfied)."
    { exitCode := 0, output := shown ++ say i.color .boldGreen "Done:" text, host := outcome.runner }
  | .error e =>
    { exitCode := 1, output := shown ++ say i.color .boldRed "Error" s!": {e.message}",
      host := outcome.runner }

def run (i : Invocation) (host : Host) : InvocationEnd :=
  match CommandLine.parse i.environment i.arguments with
  | .error (.usage _) => { exitCode := 2, host }
  | .error .version => { exitCode := 0, output := Bytes.ofString versionText, host }
  | .error .help => { exitCode := 0, output := Bytes.ofString helpText, host }
  | .ok options =>
    match options.selection with
    | .firstDeclared => i.runTask options none (i.hostFor host)
    | .named task => i.runTask options (some task) (i.hostFor host)
    | .tooMany count =>
      { exitCode := 0
        output := Bytes.ofString
          s!"Too many arguments ({count}). Usage: makeshift [OPTIONS] [TASK]\n"
        host }

end Invocation
end TaskRunner
