import TaskRunner.Host.Shell.Builtin.Condition
import TaskRunner.Host.Shell.Builtin.Directory
import TaskRunner.Host.Shell.Builtin.Flow
import TaskRunner.Host.Shell.Builtin.Kill
import TaskRunner.Host.Shell.Builtin.Limits
import TaskRunner.Host.Shell.Builtin.Names
import TaskRunner.Host.Shell.Builtin.Parameters
import TaskRunner.Host.Shell.Builtin.Text
import TaskRunner.Host.Shell.Descriptors
import TaskRunner.Host.Shell.Parser
import TaskRunner.Host.Shell.Start
import TaskRunner.Host.Utility

/-! Carrying out commands. A command has a status and may leave behind that others are passed over.
Subshells, the parts of a pipeline and programs are children: what they change in the shell is lost,
what they change in the files stays. The parts of a pipeline run one after the other; if a part was
cut short and somebody read up to the cut, all are run again with more room between them. -/

namespace TaskRunner.Host.Shell

structure Purpose where
  tested : Bool := false
  last : Bool := false

inductive ScriptSource where
  | descriptor (number : Nat)
  | file (id : Nat)

namespace Run

def clearSkip : Run Unit :=
  change fun s =>
    match s.skip with
    | .function | .text => { s with skip := .nothing }
    | _ => s

def roundEnd : Run (Bool × Bool) := do
  match (← shell).skip with
  | .nothing => pure (false, false)
  | .continue_ n =>
    if n ≤ 1 then
      change fun s => { s with skip := .nothing }
      pure (false, false)
    else
      change fun s => { s with skip := .continue_ (n - 1) }
      pure (true, false)
  | .break_ n =>
    if n ≤ 1 then
      change fun s => { s with skip := .nothing }
      pure (true, false)
    else
      change fun s => { s with skip := .break_ (n - 1) }
      pure (true, false)
  | .function => pure (true, true)
  | .text => pure (true, false)

def hasTraps : Run Bool := return (← shell).traps.toList.any fun entry => entry.2 ≠ ""

def reset (halt : Halt) : Run Unit :=
  change fun s =>
    let status :=
      match s.savedStatus with
      | some saved => if halt = .exit || s.skip = .text then saved else s.status
      | none => s.status
    { s with status, savedStatus := none, skip := .nothing, loops := 0, tracing := false }

def childShell (s : Interpreter) : Interpreter :=
  { s with jobs := [], traps := s.traps.filter fun _ text => text = "" }

def statusOf : Except Signal Nat → Run Nat
  | .ok code => pure code
  | .error signal => do
    match Builtin.signalText signal with
    | some text => sayError (text ++ "\n")
    | none => pure ()
    pure signal.status

def meetSignals : Run Unit := do
  let w ← world
  if w.signals.isEmpty then pure ()
  else
    let traps := (← shell).traps
    match w.signals.find? fun (number, signal) =>
      number = w.process.number && Builtin.ends signal &&
        (traps[signal.number]?.isNone || signal = Signal.kill) with
    | some (_, signal) =>
      modify fun s => { s with world := { s.world with
        signals := s.world.signals.filter (·.1 ≠ s.world.process.number) } }
      throw (.killed signal)
    | none => pure ()

end Run

def readerOf (text : Raw) : Reader := { source := { rest := text.toList } }

def Reader.prepared (r : Reader) (s : Interpreter) : Reader :=
  { r with
    aliasText := fun name => s.aliases.lookup name, nextDocument := s.nextDocument, documents := [] }

def Run.learn (r : Reader) : Run Unit :=
  Run.change fun s =>
    { s with
      documents := r.documents.foldl (fun all (number, d) => all.insert number d) s.documents
      nextDocument := r.nextDocument, readLine := r.source.line }

def readText (r : Reader) : Run (Complete × Reader) := do
  match Read.complete (r.prepared (← Run.shell)) with
  | .ok complete r =>
    Run.learn r
    pure (complete, r)
  | .error (.fault line message) _ => Run.misread line message
  | .error .starved r => pure (.ended, r)

structure Script where
  source : ScriptSource
  reader : Reader
  shown : Nat := 0

def mostEnds : Nat := 50

def partSize : Nat := 8192

/-- Reads one complete command of a script, and more of the script if that takes more. `further` is
told how many lines were read in the middle of it. -/
def readScript (further : Nat → Run Unit) : Nat → Script → Run (Complete × Script)
  | 0, script => pure (.ended, script)
  | most + 1, script => do
    let verbose ← Run.hasOption "verbose"
    let text := script.reader.source.rest
    let start := script.reader.source.taken
    let show_ (taken : Nat) : Run Nat := do
      let behind := text.drop (taken - start)
      let toLineEnd := (behind.takeWhile (· ≠ '\n')).length + (if behind.contains '\n' then 1 else 0)
      let upTo :=
        if taken = script.shown then taken
        else if start < taken && text[taken - start - 1]? = some '\n' then taken
        else taken + toLineEnd
      if verbose && script.shown < upTo then
        Run.sayError (String.ofList ((text.drop (script.shown - start)).take (upTo - script.shown)))
      pure (max upTo script.shown)
    match Read.complete (script.reader.prepared (← Run.shell)) with
    | .ok complete r =>
      let shown ← show_ r.source.taken
      let lines := r.source.line - script.reader.source.line
      let isLast := text[r.source.taken - start - 1]? = some '\n'
      further (if start < r.source.taken && isLast then lines - 1 else lines)
      Run.learn r
      pure (complete, { script with reader := r, shown })
    | .error (.fault line message) r =>
      let _ ← show_ r.source.taken
      further (r.source.line - script.reader.source.line)
      Run.misread line message
    | .error .starved _ =>
      let read ←
        match script.source with
        | .descriptor number => Run.act (Act.read number partSize)
        | .file id =>
          match (← Run.world).opened[id]? with
          | some file => Run.act (Act.take id file partSize)
          | none => pure (.ok .empty)
      let more := (read.toOption.getD .empty).toList.map Raw.charOf
      let source := script.reader.source
      let source :=
        if more.isEmpty then { source with complete := true }
        else { source with rest := source.rest ++ more.filter (· ≠ '\x00') }
      readScript further most { script with reader := { script.reader with source } }

def promptText (run : Expansion.Substitute) (text : Raw) : Run Raw := do
  let read : Read Word := do
    let (w, _) ← Read.writing (Read.commands mostSteps) (some .open_) .double (← Read.nextChar)
    pure w.symbols.reverse
  match read ((readerOf text).prepared (← Run.shell)) with
  | .ok word r =>
    Run.learn { r with source := { r.source with line := (← Run.shell).readLine } }
    try
      Expansion.documentText run ⟨true, word⟩
    catch
      | .failure => pure text
      | halt => throw halt
  | .error _ _ => pure text

def traceLine (prompt : Raw) (words : List Raw) : Raw := prompt ++ " ".intercalate words ++ "\n"

def writeTrace (file : Option Nat) (text : Raw) : Run Unit := do
  match file with
  | none => Run.sayError text
  | some id =>
    match (← Run.world).opened[id]? with
    | some file =>
      if file.canWrite then let _ ← Run.act (Act.put id file (Raw.toArray text))
    | none => pure ()

structure Search where
  words : List Raw
  dropped : Nat := 0
  rest : List Word
  functions : Bool := true
  path : Option Raw := none
  own : Option Own := none
  declares : Bool := false
  replaces : Bool := false

namespace Search

def isLocal (s : Search) : Bool := !s.words.isEmpty && !s.own.any Own.isSpecial

def isSpecial (s : Search) : Bool := s.own.any Own.isSpecial

end Search

def firstFields (run : Expansion.Substitute) : List Word → Run (List Raw × List Word)
  | [] => pure ([], [])
  | word :: rest => do
    match ← Expansion.fieldsOf run word with
    | [] => firstFields run rest
    | found => pure (found, rest)

def withWord (run : Expansion.Substitute) (s : Search) (index : Nat) : Run (Option (Raw × Search)) := do
  match s.words[index]? with
  | some word => pure (some (word, s))
  | none =>
    let (more, rest) ← firstFields run s.rest
    let s := { s with words := s.words ++ more, rest }
    pure (s.words[index]?.map (·, s))

/-- Reads the options of `command` up to the word that it runs. There is none if it only tells what
a name means. -/
def behindCommand (run : Expansion.Substitute) : Nat → Search → Nat → Run (Search × Option Nat)
  | 0, s, _ => pure (s, none)
  | most + 1, s, index => do
    match ← withWord run s index with
    | none => pure (s, none)
    | some (word, s) =>
      match word.toList with
      | ['-', '-'] =>
        match ← withWord run s (index + 1) with
        | none => pure (s, none)
        | some (_, s) => pure (s, some (index + 1))
      | '-' :: c :: cs =>
        if (c :: cs).all (· = 'p') then
          behindCommand run most { s with path := some standardPath } (index + 1)
        else pure (s, none)
      | _ => pure (s, some index)

/-- Looks behind `command` for what is run. -/
def searchCommand (run : Expansion.Substitute) : Nat → Search → Run Search
  | 0, s => pure s
  | most + 1, s => do
    let name := (s.words[s.dropped]?).getD ""
    match ← Lookup.inside? name s.functions with
    | some (.own own) =>
      let s :=
        { s with
          own := s.own.or (some own), declares := own.declares, replaces := name = "exec" }
      if name ≠ "command" then pure s
      else
        match ← behindCommand run unbounded s (s.dropped + 1) with
        | (s, none) => pure s
        | (s, some index) => searchCommand run most { s with dropped := index, functions := false }
    | _ => pure s

/-- The words behind those that were expanded. Assignments behind a declaration stay whole. -/
def remainingWords (run : Expansion.Substitute) (s : Search) : Run (List Raw) := do
  let all ← s.rest.mapM fun word => do
    if s.declares && isAssignment word then pure [← Expansion.assignmentText run word]
    else Expansion.fieldsOf run word
  pure all.flatten

def longestWord : Nat := 131071

def programAt (w : World) (words : List Raw) (places : List Raw) : Except Errno String :=
  let rec go (cause : Errno) : List Raw → Except Errno String
    | [] => .error cause
    | place :: rest =>
      match w.files.open? w.process.here place with
      | .ok (_, _, { body := .program name, .. }) =>
        if words.any (longestWord < ·.length) then go .argumentListTooLong rest else .ok name
      | .ok _ => go .permissionDenied rest
      | .error e => go (if e = .noEntry || e = .notDirectory then cause else e) rest
  go .noEntry places

def placesOf (name : Raw) (path : Option Raw) : Run (List Raw) := do
  if name.toList.contains '/' then pure [name]
  else
    let usual ← Lookup.pathValue
    pure (Lookup.candidates (path.getD usual) name)

def statusOfCause (e : Errno) : Nat :=
  if [Errno.noEntry, .notDirectory, .tooManyLinks, .nameTooLong].contains e then 127 else 126

def deepest : Nat := 1000

def pipeRoom : Nat := 65536

def pipeGrowth : Nat := 64

def toPipe (descriptor pipe : Nat) (reads : Bool) : Act Unit := do
  Act.attach descriptor
    (← Act.register { channel := .pipe pipe, canRead := reads, canWrite := !reads })

def lookAhead : Statement → Run Unit
  | .simple _ _ (word :: _) _ => do
    match plainText? word with
    | some text =>
      let name := String.ofList text
      if isName text && (← Lookup.inside? name true).isNone then
        let _ ← Lookup.program name none
    | none => pure ()
  | _ => pure ()

def starvedPipes (w : World) (pipes : List Nat) : List Bool :=
  pipes.map fun number =>
    match w.pipes[number]? with
    | some pipe => pipe.cut && pipe.starved
    | none => false

def readNothing : Run Unit := Descriptors.openOn 0 "/dev/null" { read := true }

def simpleOwn (name : Raw) (arguments : List Raw) : Run Nat :=
  match name with
  | ":" | "true" => pure 0
  | "false" => pure 1
  | "[" | "test" => Builtin.test name arguments
  | "alias" => Builtin.alias_ arguments
  | "break" => Builtin.leaveLoops false arguments
  | "continue" => Builtin.leaveLoops true arguments
  | "cd" | "chdir" => Builtin.cd arguments
  | "command" => Builtin.command arguments
  | "echo" => Builtin.echo arguments
  | "exit" => Builtin.exit arguments
  | "export" | "readonly" => Builtin.mark name arguments
  | "bg" | "fg" => Jobs.resume arguments
  | "getopts" => Builtin.getopts arguments
  | "hash" => Builtin.hash arguments
  | "jobs" => Jobs.list arguments
  | "kill" => Builtin.kill arguments
  | "local" => Builtin.local_ arguments
  | "printf" => Builtin.printf arguments
  | "pwd" => Builtin.pwd arguments
  | "read" => Builtin.read arguments
  | "return" => Builtin.return_ arguments
  | "set" => Builtin.set arguments
  | "shift" => Builtin.shift arguments
  | "times" => Builtin.times
  | "trap" => Builtin.trap arguments
  | "type" => Builtin.type arguments
  | "ulimit" => Builtin.ulimit arguments
  | "umask" => Builtin.umask arguments
  | "unalias" => Builtin.unalias arguments
  | "unset" => Builtin.unset arguments
  | "wait" => Jobs.wait arguments
  | _ => pure 0

/-- The file that `.` reads; a name without a slash is looked for along the path. -/
def sourcePath (name : Raw) : Run Raw := do
  if name.toList.contains '/' then pure name
  else
    match Lookup.alongPath (← Run.world) (·.body.isFile) (← Lookup.pathValue) name with
    | .ok path => pure path
    | .error _ => Run.fail s!"{name}: not found"

def exportAll : Run Unit := do
  let environment ← Run.exportedVariables
  Run.act (Act.changeProcess fun p => { p with environment })

mutual

def evaluate : Nat → Purpose → Option Statement → Run Nat
  | 0, _, _ => throw .finish
  | fuel + 1, purpose, statement => do
    Jobs.spend
    match statement with
    | none => pure ()
    | some s =>
      if !(← Run.hasOption "noexec") then
        meetTraps fuel
        perform fuel purpose s
    meetTraps fuel
    if purpose.last then throw .finish
    pure (← Run.shell).status

/-- Carries out a command and keeps its status. Commands of some kinds end the shell when they fail
and nobody tests them. -/
def perform : Nat → Purpose → Statement → Run Unit
  | 0, _, _ => throw .finish
  | fuel + 1, purpose, s => do
    let keep (status : Nat) : Run Unit := Run.change fun s => { s with status }
    let checked (status : Nat) : Run Unit := do
      keep status
      if status ≠ 0 && !purpose.tested && (← Run.hasOption "errexit") then throw .finish
    let passing : Run Bool := return (← Run.shell).skip ≠ .nothing
    match s with
    | .simple line assignments words redirections =>
      checked (← simple fuel purpose line assignments words redirections)
    | .subshell line body redirections =>
      checked (← subshell fuel purpose line body redirections)
    | .background line body redirections => checked (← background fuel line body redirections)
    | .pipeline inBackground parts =>
      if inBackground then
        Jobs.start (asProcess fuel do
          readNothing
          let status ← pipeline fuel purpose.tested parts
          Run.change fun s => { s with status }) Run.childShell
        checked 0
      else checked (← pipeline fuel purpose.tested parts)
    | .negated body =>
      let status ← evaluate fuel { tested := true } (some body)
      keep (if ← passing then status else if status = 0 then 1 else 0)
    | .redirected line body redirections =>
      Run.atLine line
      let ready ← redirections.mapM (Descriptors.prepare (substitute fuel))
      let saved ← Descriptors.save ready
      try
        let failed ← Descriptors.redirectSafely (substitute fuel) ready
        let status ←
          if failed ≠ 0 then pure failed
          else evaluate fuel { tested := purpose.tested } (some body)
        Descriptors.giveBack saved
        keep status
      catch halt =>
        Descriptors.giveBack saved
        throw halt
    | .both first second =>
      let status ← evaluate fuel { tested := true } (some first)
      if status = 0 && !(← passing) then keep (← evaluate fuel purpose (some second))
    | .either first second =>
      let status ← evaluate fuel { tested := true } (some first)
      if status ≠ 0 && !(← passing) then keep (← evaluate fuel purpose (some second))
    | .sequence first second =>
      let _ ← evaluate fuel { tested := purpose.tested } (some first)
      if !(← passing) then keep (← evaluate fuel purpose (some second))
    | .conditional test yes no =>
      let status ← evaluate fuel { tested := true } (some test)
      if !(← passing) then
        if status = 0 then keep (← evaluate fuel purpose (some yes))
        else
          match no with
          | some no => keep (← evaluate fuel purpose (some no))
          | none => keep 0
    | .loop positive test body =>
      Run.change fun s => { s with loops := s.loops + 1 }
      let status ← rounds fuel purpose.tested positive test body 0
      Run.change fun s => { s with loops := s.loops - 1 }
      keep status
    | .iteration line name words body =>
      Run.atLine line
      let values ← words.mapM (Expansion.fieldsOf (substitute fuel))
      Run.change fun s => { s with loops := s.loops + 1 }
      let status ← iterations fuel purpose.tested name body values.flatten 0
      Run.change fun s => { s with loops := s.loops - 1 }
      keep status
    | .choice line word branches =>
      Run.atLine line
      let text ← Expansion.textOfWord (substitute fuel) word
      keep (← choose fuel purpose text.toList branches)
    | .definition name body =>
      Run.change fun s => { s with functions := s.functions.insert name body }
      keep 0

def rounds : Nat → Bool → Bool → Statement → Statement → Nat → Run Nat
  | 0, _, _, _, _, _ => throw .finish
  | fuel + 1, tested, positive, test, body, status => do
    let tests ← evaluate fuel { tested := true } (some test)
    if (← Run.shell).skip ≠ .nothing then
      let (leaves, outside) ← Run.roundEnd
      let status := if outside then tests else status
      if leaves then pure status else rounds fuel tested positive test body status
    else if decide (tests = 0) != positive then pure status
    else
      let status ← evaluate fuel { tested } (some body)
      let (leaves, _) ← Run.roundEnd
      if leaves then pure status else rounds fuel tested positive test body status

def iterations : Nat → Bool → Raw → Statement → List Raw → Nat → Run Nat
  | 0, _, _, _, _, _ => throw .finish
  | _ + 1, _, _, _, [], status => pure status
  | fuel + 1, tested, name, body, value :: values, _ => do
    Run.set name (some value)
    let status ← evaluate fuel { tested } (some body)
    let (leaves, _) ← Run.roundEnd
    if leaves then pure status else iterations fuel tested name body values status

def choose : Nat → Purpose → List Char → List (List Word × Option Statement) → Run Nat
  | 0, _, _, _ => throw .finish
  | _ + 1, _, _, [] => pure 0
  | fuel + 1, purpose, text, (patterns, body) :: branches => do
    if (← Run.shell).skip ≠ .nothing then pure 0
    else if ← matchesAny fuel text patterns then
      match body with
      | some body => evaluate fuel purpose (some body)
      | none => pure 0
    else choose fuel purpose text branches

def matchesAny : Nat → List Char → List Word → Run Bool
  | 0, _, _ => throw .finish
  | _ + 1, _, [] => pure false
  | fuel + 1, text, word :: words => do
    let pattern ← Expansion.patternOfWord (substitute fuel) word
    if Pattern.matchesText pattern text then pure true else matchesAny fuel text words

def substitute : Nat → Statement → Run Raw
  | 0, _ => throw .finish
  | fuel + 1, body => do
    let number ← Run.act (Act.newPipe none)
    let status ← inSubshell fuel do
      Run.act (toPipe 1 number false)
      let _ ← evaluate fuel { last := true } (some body)
    Run.change fun s => { s with substitutionStatus := status }
    let pipe ← Run.act (Act.pipe number)
    Run.act (Act.setPipe number {})
    pure (Raw.ofArray pipe.content.bytes)

def fork : Nat → Run Unit → Run (Except Signal Nat)
  | 0, _ => throw .finish
  | fuel + 1, body => do
    Jobs.letAhead World.timeToFork
    let _ ← Jobs.freeSlot
    let child := asProcess fuel body (Run.childShell (← Run.shell))
    let ended ← Run.act (Act.inChild child)
    Run.meetSignals
    pure ended

/-- Runs commands as a child and tells of a signal that ended it; answers its status. -/
def inSubshell : Nat → Run Unit → Run Nat
  | 0, _ => throw .finish
  | fuel + 1, body => do Run.statusOf (← fork fuel body)

def asProcess : Nat → Run Unit → Interpreter → Act Nat
  | 0, _, _ => pure 0
  | fuel + 1, body, shell => fun world =>
    match ending fuel body { shell, world } with
    | .ok code state => .ok code state.world
    | .error (.killed signal) state => .error signal state.world
    | .error _ state => .ok (state.shell.status % 256) state.world

def ending : Nat → Run Unit → Run Nat
  | 0, _ => throw .finish
  | fuel + 1, body => do
    try
      try
        body
      catch
        | .killed signal => throw (.killed signal)
        | halt => Run.reset halt
      commandsForEnd fuel
      Run.flush
      let status := (← Run.shell).status
      Jobs.runAll none unbounded
      pure (status % 256)
    catch
      | .killed signal =>
        Jobs.runAll none unbounded
        throw (.killed signal)
      | halt => throw halt

/-- Carries out the commands that wait for the end of the shell. They change its status only if they
end it themselves. -/
def commandsForEnd : Nat → Run Unit
  | 0 => throw .finish
  | fuel + 1 => do
    let s ← Run.shell
    match s.traps[0]? with
    | none => pure ()
    | some text =>
      Run.change fun s =>
        { s with savedStatus := some s.status, traps := s.traps.erase 0, skip := .nothing }
      try
        let _ ← evaluateText fuel {} text
        Run.change fun s => { s with skip := .text }
        Run.reset .finish
      catch
        | .killed signal => throw (.killed signal)
        | halt => Run.reset halt

def meetTraps : Nat → Run Unit
  | 0 => throw .finish
  | fuel + 1 => do
    let w ← Run.world
    if w.signals.isEmpty then pure ()
    else
      Run.meetSignals
      let own := (w.signals.filter (·.1 = w.process.number)).map (·.2.number)
      if own.isEmpty then pure ()
      else
        let before := (← Run.shell).savedStatus
        Run.change fun s => { s with savedStatus := some (before.getD s.status) }
        meetEach fuel (before.getD (← Run.shell).status) (own.eraseDups.mergeSort (· ≤ ·))
        Run.change fun s => { s with savedStatus := before }

def meetEach : Nat → Nat → List Nat → Run Unit
  | 0, _, _ => throw .finish
  | _ + 1, _, [] => pure ()
  | fuel + 1, status, number :: rest => do
    if (← Run.shell).skip ≠ .nothing then pure ()
    else
      modify fun s => { s with world := { s.world with
        signals := s.world.signals.filter fun entry =>
          entry.1 ≠ s.world.process.number || entry.2.number ≠ number } }
      match (← Run.shell).traps[number]? with
      | none => pure ()
      | some text =>
        let _ ← evaluateText fuel {} text
        if (← Run.shell).skip ≠ .function then Run.change fun s => { s with status }
      meetEach fuel status rest

/-- Commands in parentheses. As the last ones of a process they need no child. -/
def subshell : Nat → Purpose → Nat → Statement → List Redirection → Run Nat
  | 0, _, _, _, _ => throw .finish
  | fuel + 1, purpose, line, body, redirections => do
    Run.atLine line
    let ready ← redirections.mapM (Descriptors.prepare (substitute fuel))
    let run : Run Unit := do
      Descriptors.redirect (substitute fuel) ready
      let _ ← evaluate fuel { purpose with last := true } (some body)
    if purpose.last && !(← Run.hasTraps) then
      run
      pure 0
    else inSubshell fuel run

def background : Nat → Nat → Statement → List Redirection → Run Nat
  | 0, _, _, _ => throw .finish
  | fuel + 1, line, body, redirections => do
    Run.atLine line
    let ready ← redirections.mapM (Descriptors.prepare (substitute fuel))
    Jobs.start (asProcess fuel do
      readNothing
      Descriptors.redirect (substitute fuel) ready
      let _ ← evaluate fuel { last := true } (some body)) Run.childShell
    pure 0

def pipeline : Nat → Bool → List Statement → Run Nat
  | 0, _, _ => throw .finish
  | fuel + 1, tested, parts => do
    Jobs.letAhead World.timeToFork
    let _ ← Jobs.freeSlot
    pipelineWith fuel tested parts (parts.map fun _ => pipeRoom)

def pipelineWith : Nat → Bool → List Statement → List Nat → Run Nat
  | 0, _, _, _ => throw .finish
  | fuel + 1, tested, parts, rooms => do
    let before ← get
    let pipes ← (rooms.drop 1).mapM fun room => Run.act (Act.newPipe (some room))
    let ended ← pipelineParts fuel tested parts none pipes
    let starved := starvedPipes (← Run.world) pipes
    if starved.any id then
      set before
      pipelineWith fuel tested parts
        (rooms.take 1 ++ (rooms.drop 1).zipWith
          (fun room more => if more then room * pipeGrowth else room) starved)
    else
      let statuses ← ended.mapM Run.statusOf
      Run.meetSignals
      pure (statuses.getLast?.getD 0)

def pipelineParts : Nat → Bool → List Statement → Option Nat → List Nat →
    Run (List (Except Signal Nat))
  | 0, _, _, _, _ => throw .finish
  | _ + 1, _, [], _, _ => pure []
  | fuel + 1, tested, part :: parts, input, pipes => do
    lookAhead part
    let child := asProcess fuel (do
      match input with
      | some pipe => Run.act (toPipe 0 pipe true)
      | none => pure ()
      match pipes with
      | pipe :: _ => Run.act (toPipe 1 pipe false)
      | [] => pure ()
      let _ ← evaluate fuel { tested, last := true } (some part)) (Run.childShell (← Run.shell))
    let ended ← Run.act (Act.inChild child)
    let rest ← pipelineParts fuel tested parts pipes.head? (pipes.drop 1)
    pure (ended :: rest)

def simple : Nat → Purpose → Nat → List Word → List Word → List Redirection → Run Nat
  | 0, _, _, _, _, _ => throw .finish
  | fuel + 1, purpose, line, assignments, words, redirections => do
    Run.atLine line
    Run.change fun s => { s with substitutionStatus := 0 }
    let run := substitute fuel
    let (first, rest) ← firstFields run words
    let search ←
      if first.isEmpty then pure { words := [], rest := [] }
      else searchCommand run unbounded { words := first, rest }
    let all := search.words ++ (← remainingWords run search)
    let depth := (← Run.shell).frames.length
    if search.isLocal then Run.change fun s => { s with frames := [] :: s.frames }
    let ready ← redirections.mapM (Descriptors.prepare run)
    let saved ← Descriptors.save ready
    try
      let failed ← Descriptors.redirectSafely run ready
      let status ←
        if failed ≠ 0 then
          Run.change fun s => { s with status := failed }
          if search.isSpecial then throw .failure
          pure failed
        else
          let arguments := all.drop search.dropped
          let replaced := search.replaces && 1 < arguments.length
          let texts ← assignments.mapM fun word => do
            let text ← Expansion.assignmentText run word
            if search.isLocal then Run.makeLocal text true else Run.assignText text replaced
            pure text
          trace fuel ((saved.lookup 2).join) (texts ++ all)
          runCommand fuel purpose search arguments
      if !search.replaces || failed ≠ 0 then Descriptors.giveBack saved
      Run.leaveFrames depth
      pure status
    catch halt =>
      Descriptors.giveBack saved
      throw halt

def trace : Nat → Option Nat → List Raw → Run Unit
  | 0, _, _ => throw .finish
  | fuel + 1, file, words => do
    let s ← Run.shell
    if s.options.contains "xtrace" && !s.tracing then
      Run.change fun s => { s with tracing := true }
      let prompt := (s.bindings["PS4"]?.bind (·.value)).getD ""
      let prompt ← promptText (substitute fuel) prompt
      Run.change fun s => { s with tracing := false }
      writeTrace file (traceLine prompt words)

def runCommand : Nat → Purpose → Search → List Raw → Run Nat
  | 0, _, _, _ => throw .finish
  | fuel + 1, purpose, search, arguments => do
    match arguments with
    | [] => pure (← Run.shell).substitutionStatus
    | name :: arguments =>
      match ← Lookup.find name search.functions search.path with
      | .nothing =>
        Run.change fun s => { s with status := 127 }
        pure 127
      | .program _ =>
        if purpose.last && !(← Run.hasTraps) then become fuel name arguments search.path
        else spawn fuel name arguments search.path
      | .own _ => runOwn fuel purpose search.isSpecial name arguments
      | .function body => call fuel purpose body arguments

def become : Nat → Raw → List Raw → Option Raw → Run Nat
  | 0, _, _, _ => throw .finish
  | fuel + 1, name, arguments, path => do
    match programAt (← Run.world) (name :: arguments) (← placesOf name path) with
    | .error e => Run.failWith (statusOfCause e) .finish s!"{name}: {Lookup.reason e}"
    | .ok program =>
      Jobs.letAhead World.timeToLoad
      Run.flush
      exportAll
      let status ← Run.act (start fuel program name arguments)
      Run.change fun s => { s with status, traps := s.traps.erase 0 }
      throw .finish

def spawn : Nat → Raw → List Raw → Option Raw → Run Nat
  | 0, _, _, _ => throw .finish
  | fuel + 1, name, arguments, path => do
    match programAt (← Run.world) (name :: arguments) (← placesOf name path) with
    | .error e =>
      Run.warn s!"{name}: {Lookup.reason e}"
      pure (statusOfCause e)
    | .ok program =>
      Jobs.letAhead (World.timeToFork + World.timeToLoad)
      let _ ← Jobs.freeSlot
      let environment ← Run.exportedVariables
      let ended ← Run.act (Act.inChild do
        Act.changeProcess fun p => { p with environment }
        start fuel program name arguments)
      let status ← Run.statusOf ended
      Run.meetSignals
      pure status

def call : Nat → Purpose → Statement → List Raw → Run Nat
  | 0, _, _, _ => throw .finish
  | fuel + 1, purpose, body, arguments => do
    let before ← Run.shell
    Run.change fun s => { s with depth := s.depth + 1 }
    if deepest ≤ before.depth then
      Run.fail s!"Maximum function recursion depth ({deepest}) reached"
    Run.change fun s =>
      { s with
        parameters := arguments, loops := 0, optionIndex := 1, optionOffset := none }
    let restore : Run Unit := do
      Run.change fun s =>
        { s with
          parameters := before.parameters, loops := before.loops, depth := s.depth - 1
          optionIndex := before.optionIndex, optionOffset := before.optionOffset }
      Run.clearSkip
    try
      let _ ← evaluate fuel { tested := purpose.tested } (some body)
      restore
    catch halt =>
      restore
      throw halt
    pure (← Run.shell).status

/-- Runs a command of the shell's own. A failure of a special one is passed on. -/
def runOwn : Nat → Purpose → Bool → Raw → List Raw → Run Nat
  | 0, _, _, _, _ => throw .finish
  | fuel + 1, purpose, isSpecial, name, arguments => do
    let before ← Run.shell
    let restore : Run Unit :=
      Run.change fun s =>
        { s with command := before.command, unwritten := [], unwrittenSize := 0, writeFailed := false }
    Run.change fun s => { s with command := some name }
    try
      let status ← ownCommand fuel purpose name arguments
      Run.flush
      let after ← Run.shell
      if after.writeFailed then Run.warn s!"{after.command.getD name}: I/O error"
      Run.change fun s => { s with status := if after.writeFailed then status ||| 1 else status }
      restore
    catch halt =>
      restore
      if halt = .failure && !isSpecial then
        Run.change fun s => { s with readLine := before.readLine }
      else throw halt
    pure (← Run.shell).status

def ownCommand : Nat → Purpose → Raw → List Raw → Run Nat
  | 0, _, _, _ => throw .finish
  | fuel + 1, purpose, name, arguments => do
    match name with
    | "eval" =>
      if arguments.isEmpty then pure 0
      else evaluateText fuel { tested := purpose.tested } (" ".intercalate arguments)
    | "." =>
      match ← Builtin.operands arguments with
      | [] => pure 0
      | file :: _ =>
        let path ← sourcePath file
        match ← Run.act (Act.openPath path { read := true }) with
        | .error e => Descriptors.failToOpen false path e
        | .ok id =>
          Run.change fun s => { s with command := some path }
          evaluateScript fuel false (.file id)
    | "exec" =>
      match arguments with
      | [] => pure 0
      | program :: arguments => become fuel program arguments none
    | _ => simpleOwn name arguments

def evaluateText : Nat → Purpose → Raw → Run Nat
  | 0, _, _ => throw .finish
  | fuel + 1, purpose, text => do
    let line := (← Run.shell).readLine
    Run.change fun s => { s with readLine := 1 }
    let status ← evaluateRest fuel purpose (readerOf text) 0
    Run.change fun s => { s with readLine := line }
    pure status

def evaluateRest : Nat → Purpose → Reader → Nat → Run Nat
  | 0, _, _, _ => throw .finish
  | fuel + 1, purpose, reader, status => do
    let (complete, reader) ← readText reader
    let status ←
      match complete with
      | .ended => pure status
      | .empty =>
        let _ ← evaluate fuel purpose none
        pure status
      | .statement s => evaluate fuel purpose (some s)
    match complete with
    | .ended => pure status
    | _ =>
      if (← Run.shell).skip ≠ .nothing then pure status
      else evaluateRest fuel purpose reader status

def prompt : Nat → Raw → Nat → Run Unit
  | 0, _, _ => throw .finish
  | fuel + 1, name, times => do
    let text := (← Run.value? name).getD ""
    for _ in List.range times do
      Run.sayError (← promptText (substitute fuel) text)

/-- Carries out a script that is read part by part. At the `top`, somebody may be asked for it. -/
def evaluateScript : Nat → Bool → ScriptSource → Run Nat
  | 0, _, _ => throw .finish
  | fuel + 1, top, source => do
    let line := (← Run.shell).readLine
    Run.change fun s => { s with readLine := 1 }
    let reader : Reader := { source := { rest := [], complete := false } }
    let status ← evaluateParts fuel top { source, reader } 0 0
    Run.change fun s => { s with readLine := line }
    pure status

/-- Carries out the rest of a script. `ends` counts how many times it seemed to end. -/
def evaluateParts : Nat → Bool → Script → Nat → Nat → Run Nat
  | 0, _, _, _, _ => throw .finish
  | fuel + 1, top, script, ends, status => do
    let asks := top && (← Run.hasOption "interactive")
    if asks then prompt fuel "PS1" 1
    let further (lines : Nat) : Run Unit := if asks then prompt fuel "PS2" lines else pure ()
    let (complete, script) ← readScript further unbounded script
    let status ←
      match complete with
      | .ended => pure status
      | .empty =>
        let _ ← evaluate fuel {} none
        pure status
      | .statement s => evaluate fuel {} (some s)
    match complete with
    | .ended =>
      if !asks || mostEnds ≤ ends then pure status
      else if ← Run.hasOption "ignoreeof" then
        Run.sayError "\nUse \"exit\" to leave shell.\n"
        evaluateParts fuel top script (ends + 1) status
      else
        Run.sayError "\n"
        pure status
    | _ =>
      if (← Run.shell).skip ≠ .nothing then
        Run.clearSkip
        pure status
      else evaluateParts fuel top script 0 status

/-- Does the work of a shell. One that asks for its commands goes on with its input after a
failure. -/
def attend : Nat → Start.Work → Run Unit
  | 0, _ => throw .finish
  | fuel + 1, work => do
    try
      match work with
      | .text commands thenInput =>
        let _ ← evaluateText fuel {} commands
        if thenInput then let _ ← evaluateScript fuel true (.descriptor 0)
      | .file id => let _ ← evaluateScript fuel true (.file id)
      | .input => let _ ← evaluateScript fuel true (.descriptor 0)
    catch halt =>
      if halt ≠ .failure || !(← Run.hasOption "interactive") then throw halt
      Run.leaveFrames 0
      Run.change fun s => { s with depth := 0, command := none }
      Run.reset halt
      attend fuel (match work with
        | .file id => .file id
        | _ => .input)

def start : Nat → String → Raw → List Raw → Act Nat
  | 0, _, _, _ => pure 0
  | fuel + 1, program, name, arguments => do
    Act.spend World.timeToLoad
    match Utility.byName program with
    | some utility => utility name arguments
    | none =>
      let commands : Run Unit := do attend fuel (← Start.prepare arguments)
      asProcess fuel commands (Start.shellOf (← get) name)

end

end TaskRunner.Host.Shell
