import Std.Data.TreeMap
import TaskRunner.Errno
import TaskRunner.Host.Content
import TaskRunner.Host.Raw

/-! The files of a host. A place is the list of names on the way to it from the root, and leads to
an object by its number; an object that has lost its place stays as long as somebody has it open.
Paths are followed name by name: every place on the way must be a directory, also one that a later
`..` leaves again. -/

namespace TaskRunner.Host

abbrev Place := List Raw

inductive Device where
  | null
  | zero
  | full
  | random
  | terminal
  deriving DecidableEq, Repr

inductive Body where
  | file (content : Content)
  | directory
  | device (device : Device)
  | program (name : String)
  | link (target : Raw)
  | pipe

namespace Body

def isDirectory : Body → Bool
  | .directory => true
  | _ => false

def isFile : Body → Bool
  | .file _ | .program _ => true
  | _ => false

def size : Body → Nat
  | .file content => content.size
  | .program _ => 1
  | _ => 0

end Body

/-- Something that a place leads to. Times are counted in billionths of a second. -/
structure Inode where
  body : Body
  mode : Nat
  modified : Int := 0
  accessed : Int := 0

structure FileTree where
  entries : List (Place × Nat) := []
  inodes : Std.TreeMap Nat Inode := {}
  next : Nat := 0

inductive Target where
  | inode (place : Place) (number : Nat)
  | descriptor (number : Nat)
  | free (place : Place)
  deriving Repr

namespace FileTree

def rootNumber : Nat := 0

def empty : FileTree :=
  { inodes := ({} : Std.TreeMap Nat Inode).insert rootNumber ⟨.directory, 0o755, 0, 0⟩, next := 1 }

def number? (t : FileTree) (place : Place) : Option Nat :=
  if place = [] then some rootNumber else t.entries.lookup place

def inode? (t : FileTree) (number : Nat) : Option Inode := t.inodes[number]?

def body? (t : FileTree) (place : Place) : Option Body :=
  match t.number? place with
  | some number => (t.inode? number).map (·.body)
  | none => none

def setInode (t : FileTree) (number : Nat) (inode : Inode) : FileTree :=
  { t with inodes := t.inodes.insert number inode }

def touchDirectory (t : FileTree) (place : Place) (now : Int) : FileTree :=
  match t.number? place with
  | none => t
  | some number =>
    match t.inode? number with
    | some inode => t.setInode number { inode with modified := now }
    | none => t

def add (t : FileTree) (place : Place) (inode : Inode) : Nat × FileTree :=
  let t := t.touchDirectory place.dropLast inode.modified
  (t.next,
    { entries := (place, t.next) :: t.entries
      inodes := t.inodes.insert t.next inode
      next := t.next + 1 })

def remove (t : FileTree) (place : Place) (now : Int) : FileTree :=
  let t := t.touchDirectory place.dropLast now
  { t with entries := t.entries.filter fun e => !place.isPrefixOf e.1 }

def namesIn (t : FileTree) (place : Place) : List Raw :=
  (t.entries.filterMap fun e =>
    if e.1.dropLast = place then e.1.getLast? else none).mergeSort (· ≤ ·)

def addBelow (t : FileTree) (place : Place) (names : List Raw) (inode : Inode) : FileTree :=
  match names with
  | [] => t
  | [name] =>
    match t.number? (place ++ [name]) with
    | some number =>
      if inode.body.isDirectory then t else t.setInode number inode
    | none => (t.add (place ++ [name]) inode).2
  | name :: names =>
    let inner := place ++ [name]
    let t :=
      if (t.number? inner).isSome then t
      else (t.add inner ⟨.directory, 0o755, inode.modified, inode.accessed⟩).2
    t.addBelow inner names inode

def longestName : Nat := 255
def longestPath : Nat := 4095

def descriptorPlace : Place := ["proc", "self", "fd"]

/-- Follows names from a place. A link at the very end is followed if `through` is set; `links`
bounds how many are followed at all. -/
def follow (t : FileTree) (through : Bool) (links : Nat) (place : Place) (names : List Raw) :
    Except Errno Target :=
  match names with
  | [] =>
    match t.number? place with
    | some number => .ok (.inode place number)
    | none => .error .noEntry
  | name :: rest =>
    match t.body? place with
    | some .directory =>
      if name = "" || name = "." then t.follow through links place rest
      else if name = ".." then t.follow through links place.dropLast rest
      else if longestName < name.length then .error .nameTooLong
      else
        let inner := place ++ [name]
        match t.body? inner with
        | some (.link target) =>
          if rest = [] && !through then t.follow through links inner []
          else
            match links with
            | 0 => .error .tooManyLinks
            | links + 1 =>
              t.follow through links (if target.startsWith "/" then [] else place)
                (target.splitOn "/" ++ rest)
        | some _ => t.follow through links inner rest
        | none =>
          if rest.all (· = "") then
            if place = descriptorPlace && !name.isEmpty && name.all Char.isDigit then
              .ok (.descriptor (name.toNat?.getD 0))
            else .ok (.free inner)
          else .error .noEntry
    | some _ => .error .notDirectory
    | none => .error .noEntry
termination_by (links, names.length)

def find (t : FileTree) (here : Place) (path : Raw) (through : Bool := true) :
    Except Errno Target :=
  if path = "" then .error .noEntry
  else if longestPath < path.length then .error .nameTooLong
  else t.follow through 40 (if path.startsWith "/" then [] else here) (path.splitOn "/")

def open? (t : FileTree) (here : Place) (path : Raw) (through : Bool := true) :
    Except Errno (Place × Nat × Inode) :=
  match t.find here path through with
  | .ok (.inode place number) =>
    match t.inode? number with
    | some inode => .ok (place, number, inode)
    | none => .error .noEntry
  | .ok _ => .error .noEntry
  | .error e => .error e

def directory? (t : FileTree) (here : Place) (path : Raw) : Except Errno Place :=
  match t.open? here path with
  | .ok (place, _, inode) => if inode.body.isDirectory then .ok place else .error .notDirectory
  | .error e => .error e

/-- Everything below a directory as paths from there; a directory's path ends in a slash. -/
def listing (t : FileTree) (place : Place) : List Raw :=
  (t.entries.filterMap fun e =>
    if place.isPrefixOf e.1 && e.1 ≠ place then
      let path := "/".intercalate (e.1.drop place.length)
      some (if (t.body? e.1).any Body.isDirectory then path ++ "/" else path)
    else none).mergeSort (· ≤ ·)

end FileTree
end TaskRunner.Host
