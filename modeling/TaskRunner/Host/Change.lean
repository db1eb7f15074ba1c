import TaskRunner.Host

/-! What a run did to the files below the directory of a host, as a list of changes that can be made
one after the other. Everything that has to go comes first, and a directory goes after what is in
it; then comes what is new, and a directory is made before what is put into it. -/

namespace TaskRunner.Host

inductive Holding where
  | file (content : Bytes)
  | directory
  deriving DecidableEq, Repr

namespace FileTree

def holding? (t : FileTree) (place : Place) : Option Holding :=
  match t.body? place with
  | some (.file content) => some (.file content.bytes.toList)
  | some .directory => some .directory
  | _ => none

end FileTree

inductive Change where
  | removeFile (path : String)
  | removeDirectory (path : String)
  | makeDirectory (path : String)
  | writeFile (path : String) (content : Bytes)
  deriving DecidableEq, Repr

namespace Change

/-- A file that stays a file is not removed: writing replaces its content. -/
def removal? (path : String) (before after : Option Holding) : Option Change :=
  match before, after with
  | some (.file _), some (.file _) => none
  | some (.file _), _ => some (.removeFile path)
  | some .directory, _ => some (.removeDirectory path)
  | none, _ => none

def addition? (path : String) (after : Option Holding) : Option Change :=
  after.map fun
    | .file content => .writeFile path content
    | .directory => .makeDirectory path

end Change

def changedPlaces (here : Place) (before after : FileTree) : List Place :=
  let places := ((before.entries ++ after.entries).map (·.1)).eraseDups
  let changed := places.filter fun place =>
    here.isPrefixOf place && before.holding? place ≠ after.holding? place
  changed.mergeSort fun left right => left.length ≤ right.length

/-- What leads from one host to another that started from it. -/
def changes (before after : Host) : List Change :=
  let places := changedPlaces before.here before.files after.files
  let path (place : Place) := Raw.toText ("/".intercalate (place.drop before.here.length))
  places.reverse.filterMap (fun place =>
      Change.removal? (path place) (before.files.holding? place) (after.files.holding? place)) ++
    places.filterMap fun place => Change.addition? (path place) (after.files.holding? place)

end TaskRunner.Host
