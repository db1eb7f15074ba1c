import TaskRunner.Host.Change
import TaskRunner.Invocation

/-! The command line. The files below the working directory are read into a host, the call runs on
that host, and the changes it made there are made to the files. -/

namespace TaskRunner

/-- A file or a directory with everything below it; links and devices are passed over. -/
partial def readEntry (above : String) (entry : IO.FS.DirEntry) :
    IO (List (String × Bytes)) := do
  let path := above ++ entry.fileName
  match (← entry.path.symlinkMetadata).type with
  | .dir =>
    let inner ← (← entry.path.readDir).toList.mapM (readEntry (path ++ "/"))
    pure ((path ++ "/", []) :: inner.flatten)
  | .file => pure [(path, (← IO.FS.readBinFile entry.path).data.toList)]
  | _ => pure []

def readHost : IO Host := do
  let entries ← (← IO.currentDir).readDir
  pure (Host.ofFiles (← entries.toList.mapM (readEntry "")).flatten)

def readEnvironment : IO (String → Option String) := do
  let set ← Invocation.variableNames.filterMapM fun name => do
    pure ((← IO.getEnv name).map (name, ·))
  pure fun name => set.lookup name

def makeChange : Host.Change → IO Unit
  | .removeFile path => IO.FS.removeFile path
  | .removeDirectory path => IO.FS.removeDir path
  | .makeDirectory path => IO.FS.createDir path
  | .writeFile path content => IO.FS.writeBinFile path ⟨content.toArray⟩

end TaskRunner

open TaskRunner in
def main (arguments : List String) : IO UInt32 := do
  let host ← readHost
  let output ← IO.getStdout
  let invocation : Invocation :=
    { arguments, environment := ← readEnvironment, terminal := ← output.isTty }
  let result := invocation.run host
  (host.changes result.host).forM makeChange
  output.write ⟨result.output.toArray⟩
  output.flush
  pure (UInt32.ofNat result.exitCode)
