import TaskRunner.Execution
import TaskRunner.Graph.Build
import TaskRunner.Source.Actions

/-! One whole run. The task file is read for its declarations, the graph of the requested task is
built and checked for cycles, the file is read again for the actions of that graph, and only then is
anything carried out. Each stage can fail, and the first failure is the answer. -/

namespace TaskRunner

structure BuildRequest where
  path : String
  target : Option String := none
  deriving DecidableEq, Repr

/-- The task that was satisfied, and all tasks that finished on the way, in that order. -/
structure BuildReport where
  root : String
  finished : List String
  deriving DecidableEq, Repr

inductive BuildError where
  | scan (cause : ScanError)
  | graph (cause : GraphError)
  | action (cause : ActionError)
  deriving DecidableEq, Repr

def BuildError.message : BuildError → String
  | .scan cause => cause.message
  | .graph cause => cause.message
  | .action cause => cause.message

structure BuildOutcome (σ : Type) where
  answer : Except BuildError BuildReport
  events : List Event
  runner : σ

namespace Build
open Source

def openFile (path : String) (file : Except IoError Bytes) : Except ScanError Cursor :=
  match file with
  | .ok bytes => .ok (.ofBytes bytes)
  | .error cause =>
    if cause = .system .noEntry then .error (.fileNotFound path)
    else .error (.unreadable path cause)

def readTasks (request : BuildRequest) (file : Except IoError Bytes) :
    Except ScanError (Store × String) := do
  let store ← scan request.path (← openFile request.path file)
  match request.target, store.firstDeclared with
  | some target, _ => .ok (store, target)
  | none, some first => .ok (store, first)
  | none, none => .error (.emptyFile request.path)

def checkedGraph (root : String) (store : Store) : Except GraphError Graph := do
  let g ← Graph.build root store
  let (answer, g) := g.ensureAcyclic
  answer
  .ok g

def loadActions (request : BuildRequest) (file : Except IoError Bytes) (g : Graph)
    (store : Store) : Except ScanError Store := do
  let (answer, store) := attachActions request.path g (← openFile request.path file) store
  let _ ← answer
  .ok store

/-- Everything that comes before the first action: the root, its graph and the store. -/
def prepare (request : BuildRequest) (file : Except IoError Bytes) :
    Except BuildError (String × Graph × Store) := do
  let (store, root) ← (readTasks request file).mapError .scan
  let g ← (checkedGraph root store).mapError .graph
  let store ← (loadActions request file g store).mapError .scan
  .ok (root, g, store)

end Build

def build {σ : Type} (request : BuildRequest) (file : Except IoError Bytes) (runner : Runner σ)
    (state : σ) : BuildOutcome σ :=
  match Build.prepare request file with
  | .error e => ⟨.error e, [], state⟩
  | .ok (root, g, store) =>
    match satisfyRoot runner store g state with
    | (.ok finished, x) => ⟨.ok ⟨root, finished⟩, x.events.toList, x.runner⟩
    | (.error e, x) => ⟨.error (.action e), x.events.toList, x.runner⟩

end TaskRunner
