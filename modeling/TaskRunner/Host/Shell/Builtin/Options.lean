import TaskRunner.Host.Shell.Variables

/-! The arguments of the shell's own commands, and texts in the quotes that the shell reads them
back from. -/

namespace TaskRunner.Host.Shell
namespace Builtin

/-- Reads the letters of one argument; `valued` letters take the rest of it or the next argument. -/
def cluster (letters valued : String) : List Char → List Raw →
    Run (List (Char × Raw) × List Raw)
  | [], arguments => pure ([], arguments)
  | c :: cs, arguments =>
    if valued.toList.contains c then
      match cs, arguments with
      | [], value :: arguments => pure ([(c, value)], arguments)
      | [], [] => Run.fail s!"No arg for -{c} option"
      | cs, arguments => pure ([(c, String.ofList cs)], arguments)
    else if letters.toList.contains c then do
      let (options, arguments) ← cluster letters valued cs arguments
      pure ((c, "") :: options, arguments)
    else Run.fail s!"Illegal option -{c}"

/-- The options in front of the operands, and the operands; `most` bounds their number. -/
def optionsWithin (letters valued : String) : Nat → List Raw →
    Run (List (Char × Raw) × List Raw)
  | 0, arguments => pure ([], arguments)
  | _ + 1, [] => pure ([], [])
  | most + 1, argument :: arguments => do
    match argument.toList with
    | ['-', '-'] => pure ([], arguments)
    | '-' :: c :: cs =>
      let (first, arguments) ← cluster letters valued (c :: cs) arguments
      let (rest, arguments) ← optionsWithin letters valued most arguments
      pure (first ++ rest, arguments)
    | _ => pure ([], argument :: arguments)

def options (letters : String) (arguments : List Raw) (valued : String := "") :
    Run (List (Char × Raw) × List Raw) :=
  optionsWithin letters valued arguments.length arguments

def operands (arguments : List Raw) : Run (List Raw) := do
  pure (← options "" arguments).2

/-- A text in quotes. Apostrophes stand between double quotes of their own; `most` bounds the parts
and is more than the length. -/
def quotedParts : Nat → List Char → List Char
  | 0, _ => []
  | most + 1, cs =>
    let text := cs.takeWhile (· ≠ '\'')
    let marks := (cs.drop text.length).takeWhile (· = '\'')
    let rest := cs.drop (text.length + marks.length)
    ['\''] ++ text ++ ['\''] ++
      (if marks.isEmpty then [] else ['"'] ++ marks ++ ['"']) ++
      (if rest.isEmpty then [] else quotedParts most rest)

def quoted (text : Raw) : Raw := String.ofList (quotedParts (text.length + 1) text.toList)

def row (rows : Nat) (name : Raw) : Nat :=
  let sum := name.toList.foldl (fun sum c => sum + c.toNat) 0
  match name.toList with
  | [] => 0
  | c :: _ => (16 * c.toNat + sum) % rows

/-- Entries in the order of the rows of a table; those in one row keep their order. -/
def inRows {α : Type} (rows : Nat) (entries : List (Raw × α)) : List (Raw × α) :=
  entries.mergeSort fun left right => row rows left.1 ≤ row rows right.1

end Builtin
end TaskRunner.Host.Shell
