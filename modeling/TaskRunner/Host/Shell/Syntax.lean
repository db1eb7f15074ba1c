import TaskRunner.Host.Raw

/-! Commands as a shell reads them. A word is a row of symbols: characters that stand as they are,
characters whose meaning was taken away, marks where quotes begin and end, and what is to be
replaced by a value, by the output of a command or by the result of a calculation. A document that
a command reads is only known after the command, which therefore holds the number of it. -/

namespace TaskRunner.Host.Shell

inductive Treatment where
  | invalid
  | plain
  | orElse
  | ifSet
  | orFail
  | orAssign
  | length
  | dropEnd (longest : Bool)
  | dropStart (longest : Bool)
  deriving DecidableEq, Repr

/-- A parameter with the treatment of its value; with `colon` an empty value counts as none. -/
structure Parameter where
  name : Raw
  treatment : Treatment
  colon : Bool := false
  deriving DecidableEq, Repr

inductive RedirectionKind where
  | input
  | output
  | overwrite
  | append
  | both
  | inputFrom
  | outputTo
  deriving DecidableEq, Repr

mutual

inductive Symbol where
  | plain (c : Char)
  | escaped (c : Char)
  | quote
  | parameter (p : Parameter) (word : List Symbol)
  | command (body : Option Statement)
  | arithmetic (word : List Symbol)

inductive Redirection where
  | file (descriptor : Nat) (kind : RedirectionKind) (target : List Symbol)
  | copy (descriptor : Nat) (source : Nat)
  | close (descriptor : Nat)
  | document (descriptor : Nat) (number : Nat)

inductive Statement where
  | simple (line : Nat) (assignments words : List (List Symbol)) (redirections : List Redirection)
  | pipeline (background : Bool) (parts : List Statement)
  | redirected (line : Nat) (body : Statement) (redirections : List Redirection)
  | subshell (line : Nat) (body : Statement) (redirections : List Redirection)
  | background (line : Nat) (body : Statement) (redirections : List Redirection)
  | both (first second : Statement)
  | either (first second : Statement)
  | sequence (first second : Statement)
  | negated (body : Statement)
  | conditional (test yes : Statement) (no : Option Statement)
  | loop (positive : Bool) (test body : Statement)
  | iteration (line : Nat) (name : Raw) (words : List (List Symbol)) (body : Statement)
  | choice (line : Nat) (word : List Symbol)
      (branches : List (List (List Symbol) × Option Statement))
  | definition (name : Raw) (body : Statement)

end

abbrev Word := List Symbol

structure Document where
  expands : Bool
  body : Word

instance : Inhabited Symbol := ⟨.quote⟩
instance : Inhabited Statement := ⟨.simple 0 [] [] []⟩

def plainText? : Word → Option (List Char)
  | [] => some []
  | .plain c :: rest => (plainText? rest).map (c :: ·)
  | _ => none

def isNameStart (c : Char) : Bool := c.isAlpha || c = '_'

def isNameChar (c : Char) : Bool := c.isAlphanum || c = '_'

def isName (text : List Char) : Bool :=
  match text with
  | [] => false
  | c :: cs => isNameStart c && cs.all isNameChar

def isSpecial (c : Char) : Bool := "@*#?-$!".toList.contains c || c.isDigit

def isAssignment : Word → Bool
  | .plain c :: rest => isNameStart c && go rest
  | _ => false
where
  go : Word → Bool
    | .plain c :: rest => c = '=' || (isNameChar c && go rest)
    | _ => false

end TaskRunner.Host.Shell
