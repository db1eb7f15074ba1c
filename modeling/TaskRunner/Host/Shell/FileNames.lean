import TaskRunner.Host.Shell.Pattern
import TaskRunner.Host.World

/-! The file names that a pattern stands for. A pattern is followed name by name along the path; a
name that starts with a dot is only found by a pattern that starts with one. -/

namespace TaskRunner.Host.Shell
namespace FileNames

def closes : Nat → List Char → Bool
  | 0, _ => false
  | most + 1, cs =>
    let cs :=
      match cs with
      | '\\' :: rest => rest
      | cs => cs
    match cs with
    | [] | '/' :: _ => false
    | _ :: ']' :: _ => true
    | _ :: rest => closes most rest

def isMeta : List Char → Bool
  | [] => false
  | '*' :: _ | '?' :: _ => true
  | '\\' :: _ :: rest => isMeta rest
  | '[' :: rest =>
    let inside :=
      match rest with
      | '!' :: inside => inside
      | inside => inside
    closes (inside.length + 1) inside || isMeta rest
  | _ :: rest => isMeta rest

/-- The names of a pattern along the path. A slash stands between two of them. -/
def names (pattern : List Char) : List (List Char) :=
  let rec go (name : List Char) : List Char → List (List Char)
    | [] => [name.reverse]
    | '/' :: rest => name.reverse :: go [] rest
    | '\\' :: '/' :: rest => name.reverse :: go [] rest
    | '\\' :: c :: rest => go (c :: '\\' :: name) rest
    | c :: rest => go (c :: name) rest
  go [] pattern

def unguarded : List Char → List Char
  | [] => []
  | '\\' :: c :: rest => c :: unguarded rest
  | c :: rest => c :: unguarded rest

def namesIn (w : World) (path : Raw) : List Raw :=
  match w.files.directory? w.process.here (if path = "" then "." else path) with
  | .ok place =>
    let shown :=
      if place = FileTree.descriptorPlace then
        w.process.descriptors.map fun entry => toString entry.1
      else w.files.namesIn place
    "." :: ".." :: shown
  | .error _ => []

def expand (w : World) : Raw → List (List Char) → List Raw
  | _, [] => []
  | path, [name] =>
    if isMeta name then ((namesIn w path).filter (admits name)).map (path ++ ·)
    else
      let whole := path ++ String.ofList (unguarded name)
      if (w.files.find w.process.here whole false |> isThere) || descriptorIsThere w whole then [whole]
      else []
  | path, name :: rest =>
    if isMeta name then
      ((namesIn w path).filter (admits name)).flatMap fun found => expand w (path ++ found ++ "/") rest
    else expand w (path ++ String.ofList (unguarded name) ++ "/") rest
where
  admits (name : List Char) (found : Raw) : Bool :=
    let showsDots :=
      match name with
      | '.' :: _ | '\\' :: '.' :: _ => true
      | _ => false
    (showsDots || !found.startsWith ".") && Pattern.matchesText name found.toList
  isThere : Except Errno Target → Bool
    | .ok (.inode _ _) => true
    | _ => false
  descriptorIsThere (w : World) (path : Raw) : Bool :=
    match w.files.find w.process.here path false with
    | .ok (.descriptor number) => (w.openFile? number).isSome
    | _ => false

end FileNames

def fileNames (w : World) (pattern : List Char) : List Raw :=
  let names := FileNames.names pattern
  if names.any FileNames.isMeta then (FileNames.expand w "" names).mergeSort (· ≤ ·) else []

end TaskRunner.Host.Shell
