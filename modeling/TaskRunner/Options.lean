/-! What a command line asks for: the tasks to run, the task file, the directory to work in. -/

namespace TaskRunner

structure Options where
  tasks : List String := []
  file : String := "makefile"
  directory : Option String := none
  verbose : Bool := false
  deriving DecidableEq, Repr

inductive Selection where
  | firstDeclared
  | named (task : String)
  | tooMany (count : Nat)
  deriving DecidableEq, Repr

namespace Options

def selection (options : Options) : Selection :=
  match options.tasks with
  | [] => .firstDeclared
  | [task] => .named task
  | tasks => .tooMany tasks.length

/-- A path seen from a directory. Nothing is normalised, and an absolute path stays as it is. -/
def joinPath (directory path : String) : String :=
  if path.startsWith "/" then path
  else if directory = "" || directory.endsWith "/" then directory ++ path
  else directory ++ "/" ++ path

def taskFilePath (options : Options) : String :=
  match options.directory with
  | some directory => joinPath directory options.file
  | none => options.file

end Options
end TaskRunner
