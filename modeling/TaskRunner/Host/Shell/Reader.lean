import TaskRunner.Host.Shell.Syntax

/-! Reading the characters of a script. What an alias stands for is put in front of the text, and
the alias is in use until a character beyond it is read. A script may come in parts; coming to the
end of a part that is not the last one makes the reading starve, so that it can be repeated with
more. -/

namespace TaskRunner.Host.Shell

structure Insert where
  rest : List Char
  name : Option Raw := none
  goesOn : Bool := false

structure Source where
  inserts : List Insert := []
  rest : List Char
  complete : Bool := true
  line : Nat := 1
  taken : Nat := 0
  leaving : List Raw := []

inductive Keyword where
  | not
  | case
  | do_
  | done
  | elif
  | else_
  | esac
  | fi
  | for_
  | if_
  | in_
  | then_
  | until_
  | while_
  | prepare
  | end_
  deriving DecidableEq, Repr

namespace Keyword

def all : List (String × Keyword) :=
  [("!", not), ("case", case), ("do", do_), ("done", done), ("elif", elif), ("else", else_),
    ("esac", esac), ("fi", fi), ("for", for_), ("if", if_), ("in", in_), ("then", then_),
    ("until", until_), ("while", while_), ("\x7b", prepare), ("\x7d", end_)]

def ofWord? (text : Raw) : Option Keyword := all.lookup text

def text (k : Keyword) : String := ((all.find? (·.2 = k)).map (·.1)).getD ""

end Keyword

inductive Token where
  | end_
  | newline
  | semicolon
  | background
  | and_
  | or_
  | pipe
  | open_
  | close
  | endCase
  | redirection
  | word
  | keyword (k : Keyword)
  deriving DecidableEq, Repr

def Token.text : Token → String
  | end_ => "end of file"
  | newline => "newline"
  | semicolon => "\";\""
  | background => "\"&\""
  | and_ => "\"&&\""
  | or_ => "\"||\""
  | pipe => "\"|\""
  | open_ => "\"(\""
  | close => "\")\""
  | endCase => "\";;\""
  | redirection => "redirection"
  | word => "word"
  | keyword k => s!"\"{k.text}\""

structure Expecting where
  keywords : Bool := false
  aliases : Bool := false
  newlines : Bool := false
  endMark : Bool := false

inductive Arrow where
  | file (kind : RedirectionKind)
  | document (dropTabs : Bool)
  deriving DecidableEq, Repr

structure Awaited where
  number : Nat
  mark : List Char
  dropTabs : Bool
  expands : Bool

structure Reader where
  source : Source
  aliasText : Raw → Option Raw := fun _ => none
  expecting : Expecting := {}
  again : Bool := false
  token : Token := .end_
  word : Word := []
  quoted : Bool := false
  arrow : Nat × Arrow := (0, .document false)
  awaited : List Awaited := []
  documents : List (Nat × Document) := []
  nextDocument : Nat := 0

inductive Stop where
  | fault (line : Nat) (message : String)
  | starved

abbrev Read := EStateM Stop Reader

def mostSteps : Nat := 1000000000000

namespace Source

/-- Drops the inserts that have come to their end; answers whether one of them goes on with the
next word. -/
def dropEnded (leaving : List Raw) (goesOn : Bool) :
    List Insert → List Raw × Bool × List Insert
  | { rest := [], name, goesOn := more } :: inserts =>
    dropEnded (name.toList ++ leaving) (goesOn || more) inserts
  | inserts => (leaving, goesOn, inserts)

end Source

namespace Read

def fail {α : Type} (message : String) : Read α := do
  let r ← get
  throw (.fault r.source.line s!"Syntax error: {message}")

def next : Read (Option Char) := do
  let r ← get
  match r.source.inserts with
  | [] =>
    match r.source.rest with
    | c :: rest =>
      set { r with source := { r.source with rest, taken := r.source.taken + 1, leaving := [] } }
      pure (some c)
    | [] => if r.source.complete then pure none else throw .starved
  | inserts =>
    let (leaving, goesOn, inserts) := Source.dropEnded [] false inserts
    let expecting :=
      if goesOn then { r.expecting with aliases := true } else r.expecting
    match inserts with
    | insert :: inserts =>
      set { r with
        expecting
        source := { r.source with
          leaving, inserts := { insert with rest := insert.rest.drop 1 } :: inserts } }
      pure insert.rest.head?
    | [] =>
      match r.source.rest with
      | c :: rest =>
        set { r with
          expecting
          source := { r.source with rest, taken := r.source.taken + 1, leaving, inserts := [] } }
        pure (some c)
      | [] =>
        if r.source.complete then
          set { r with expecting, source := { r.source with leaving, inserts := [] } }
          pure none
        else throw .starved

def unread : Option Char → Read Unit
  | none => pure ()
  | some c =>
    modify fun r =>
      match r.source.inserts with
      | [] => { r with source := { r.source with rest := c :: r.source.rest, taken := r.source.taken - 1 } }
      | insert :: inserts =>
        { r with
          source := { r.source with inserts := { insert with rest := c :: insert.rest } :: inserts } }

def countLine : Read Unit :=
  modify fun r => { r with source := { r.source with line := r.source.line + 1 } }

def nextJoined : Nat → Read (Option Char)
  | 0 => pure none
  | most + 1 => do
    match ← next with
    | some '\\' =>
      match ← next with
      | some '\n' =>
        countLine
        nextJoined most
      | c =>
        unread c
        pure (some '\\')
    | c => pure c

def nextChar : Read (Option Char) := nextJoined mostSteps

def insertAlias (name text : Raw) : Read Unit :=
  modify fun r =>
    let insert : Insert :=
      ⟨text.toList, some name, text.endsWith " " || text.endsWith "\t"⟩
    { r with source := { r.source with inserts := insert :: r.source.inserts } }

def freeAlias? (name : Raw) : Read (Option Raw) := do
  let r ← get
  if r.source.leaving.contains name || r.source.inserts.any (·.name = some name) then pure none
  else pure (r.aliasText name)

end Read
end TaskRunner.Host.Shell
