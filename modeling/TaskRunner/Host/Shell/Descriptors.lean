import TaskRunner.Host.Shell.Expansion

/-! Redirections. The words in them are expanded first, and then descriptors are led elsewhere one
after the other. What the descriptors led to before can be given back. -/

namespace TaskRunner.Host.Shell
namespace Descriptors

inductive Ready where
  | file (descriptor : Nat) (kind : RedirectionKind) (path : Raw)
  | copy (descriptor source : Nat)
  | close (descriptor : Nat)
  | document (descriptor : Nat) (number : Nat)
  deriving Repr

def Ready.descriptor : Ready → Nat
  | file descriptor _ _ | copy descriptor _ | close descriptor | document descriptor _ => descriptor

def copyOf (descriptor : Nat) (text : Raw) : Run Ready := do
  match text.toList with
  | ['-'] => pure (.close descriptor)
  | [c] =>
    if c.isDigit then pure (.copy descriptor (c.toNat - '0'.toNat)) else refuse
  | _ => refuse
where
  refuse : Run Ready := do
    Run.misread (← Run.shell).readLine "Syntax error: Bad fd number"

def prepare (run : Expansion.Substitute) : Redirection → Run Ready
  | .copy descriptor source => pure (.copy descriptor source)
  | .close descriptor => pure (.close descriptor)
  | .document descriptor number => pure (.document descriptor number)
  | .file descriptor kind target =>
    if kind = .inputFrom || kind = .outputTo then do
      copyOf descriptor (← Expansion.textOfWord run target)
    else do pure (.file descriptor kind (← Expansion.textOfWord run target))

def reason (creating : Bool) (e : Errno) : String :=
  if e = .noEntry || e = .notDirectory then
    if creating then "Directory nonexistent" else "No such file"
  else e.text

def failToOpen {α : Type} (creating : Bool) (path : Raw) (e : Errno) : Run α :=
  let verb := if creating then "create" else "open"
  Run.fail s!"cannot {verb} {path}: {reason creating e}"

def openOn (descriptor : Nat) (path : Raw) (how : Opening) : Run Unit := do
  match ← Run.act (Act.openPath path how) with
  | .ok id => Run.act (Act.attach descriptor id)
  | .error e => failToOpen how.create path e

/-- Opens a file to write into it. With the option against it, a file that is there is spared. -/
def openOutput (descriptor : Nat) (path : Raw) : Run Unit := do
  if ← Run.hasOption "noclobber" then
    match (← Run.world).status? path with
    | .error _ => openOn descriptor path { write := true, create := true, exclusive := true }
    | .ok inode =>
      if inode.body.isFile then failToOpen true path .alreadyExists
      else openOn descriptor path { write := true }
  else openOn descriptor path { write := true, create := true, truncate := true }

def openKind (descriptor : Nat) (kind : RedirectionKind) (path : Raw) : Run Unit :=
  match kind with
  | .input | .inputFrom => openOn descriptor path { read := true }
  | .both => openOn descriptor path { read := true, write := true, create := true }
  | .output | .outputTo => openOutput descriptor path
  | .overwrite => openOn descriptor path { write := true, create := true, truncate := true }
  | .append => openOn descriptor path { write := true, create := true, append := true }

def openText (text : Raw) : Act Nat := do
  let number ← Act.newPipe none
  Act.setPipe number { content := .ofArray (Raw.toArray text) }
  Act.register { channel := .pipe number, canRead := true, canWrite := false }

def redirectOne (run : Expansion.Substitute) : Ready → Run Unit
  | .file descriptor kind path => openKind descriptor kind path
  | .copy descriptor source =>
    if descriptor = source then pure ()
    else do
      match (← Run.world).process.descriptors.lookup source with
      | some id => Run.act (Act.attach descriptor id)
      | none => Run.fail s!"{source}: {Errno.badDescriptor.text}"
  | .close descriptor => Run.act (Act.detach descriptor)
  | .document descriptor number => do
    match (← Run.shell).documents[number]? with
    | some document =>
      let text ← Expansion.documentText run document
      Run.act do Act.attach descriptor (← openText text)
    | none => pure ()

def redirect (run : Expansion.Substitute) (all : List Ready) : Run Unit := all.forM (redirectOne run)

abbrev Saved := List (Nat × Option Nat)

def save (all : List Ready) : Run Saved := do
  let descriptors := (← Run.world).process.descriptors
  pure ((all.map Ready.descriptor).eraseDups.map fun d => (d, descriptors.lookup d))

def giveBack (saved : Saved) : Run Unit :=
  saved.forM fun (descriptor, before) =>
    match before with
    | some id => Run.act (Act.attach descriptor id)
    | none => Run.act (Act.detach descriptor)

def redirectSafely (run : Expansion.Substitute) (all : List Ready) : Run Nat := do
  try
    redirect run all
    pure 0
  catch
    | .failure => pure 2
    | halt => throw halt

end Descriptors
end TaskRunner.Host.Shell
