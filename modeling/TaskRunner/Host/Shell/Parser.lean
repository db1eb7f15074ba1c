import TaskRunner.Host.Shell.Lexer

/-! Commands from tokens. A script is read one complete command at a time, so that what a command
changes is known when the next one is read. -/

namespace TaskRunner.Host.Shell
namespace Read

def specialNames : List String :=
  [".", ":", "break", "continue", "eval", "exec", "exit", "export", "local", "readonly", "return",
    "set", "shift", "times", "trap", "unset"]

def markText : Word → List Char
  | [] => []
  | .plain c :: rest | .escaped c :: rest => c :: markText rest
  | _ :: rest => markText rest

def target (commands : Commands) : Read Redirection := do
  let (descriptor, arrow) := (← get).arrow
  match arrow with
  | .document dropTabs =>
    expect { endMark := true }
    if (← token commands) ≠ .word then unexpected
    let r ← get
    let awaited : Awaited := ⟨r.nextDocument, markText r.word, dropTabs, !r.quoted⟩
    set { r with awaited := r.awaited ++ [awaited], nextDocument := r.nextDocument + 1 }
    pure (.document descriptor awaited.number)
  | .file kind =>
    if (← token commands) ≠ .word then unexpected
    let word := (← get).word
    let copies := kind = .inputFrom || kind = .outputTo
    match copies, word with
    | true, [.plain '-'] => pure (.close descriptor)
    | true, [.plain c] =>
      if c.isDigit then pure (.copy descriptor (c.toNat - '0'.toNat))
      else pure (.file descriptor kind word)
    | _, _ => pure (.file descriptor kind word)

def redirections (commands : Commands) : Nat → Read (List Redirection)
  | 0 => pure []
  | most + 1 => do
    if (← token commands) = .redirection then
      let first ← target commands
      pure (first :: (← redirections commands most))
    else
      pushBack
      pure []

def words (commands : Commands) : Nat → Read (List Word)
  | 0 => pure []
  | most + 1 => do
    if (← token commands) = .word then
      let word := (← get).word
      pure (word :: (← words commands most))
    else pure []

structure Simple where
  assignments : List Word := []
  words : List Word := []
  redirections : List Redirection := []
  onlyName : Bool := false

/-- Reads a simple command up to a token that is no part of it; answers too whether it is the name
of a function, whose opening parenthesis was read. -/
def simpleParts (commands : Commands) : Nat → Simple → Read (Simple × Bool)
  | 0, parts => pure (parts, false)
  | most + 1, parts => do
    expect { aliases := parts.words.isEmpty }
    match ← token commands with
    | .word =>
      let word := (← get).word
      if parts.words.isEmpty && isAssignment word then
        simpleParts commands most
          { parts with assignments := word :: parts.assignments, onlyName := false }
      else
        let only := parts.words.isEmpty && parts.assignments.isEmpty && parts.redirections.isEmpty
        simpleParts commands most { parts with words := word :: parts.words, onlyName := only }
    | .redirection =>
      let redirection ← target commands
      simpleParts commands most
        { parts with redirections := redirection :: parts.redirections, onlyName := false }
    | .open_ =>
      if parts.onlyName then pure (parts, true)
      else
        pushBack
        pure (parts, false)
    | _ =>
      pushBack
      pure (parts, false)

def patterns (commands : Commands) : Nat → Read (List Word)
  | 0 => pure []
  | most + 1 => do
    let word := (← get).word
    if (← token commands) = .pipe then
      let _ ← token commands
      pure (word :: (← patterns commands most))
    else pure [word]

inductive ListKind where
  | line
  | body
  | open_
  deriving DecidableEq

def endsList : Token → Bool
  | .end_ | .close | .endCase => true
  | .keyword k =>
    [Keyword.do_, .done, .elif, .else_, .esac, .fi, .then_, .end_].contains k
  | _ => false

def withRedirections (line : Nat) (body : Statement) (redirections : List Redirection) :
    Statement :=
  match body, redirections with
  | body, [] => body
  | .subshell line body _, redirections => .subshell line body redirections
  | body, redirections => .redirected line body redirections

def inBackground : Statement → Statement
  | .pipeline _ parts => .pipeline true parts
  | .redirected line body redirections => .background line body redirections
  | body => .background 0 body []

mutual

def commands : Nat → Commands
  | 0 => ⟨pure none, pure none⟩
  | fuel + 1 =>
    { whole := list fuel .open_ none
      parenthesized := do
        let body ← list fuel .open_ none
        if (← token (commands fuel)) ≠ .close then unexpected (some .close)
        pure body }

def list : Nat → ListKind → Option Statement → Read (Option Statement)
  | 0, _, before => pure before
  | fuel + 1, kind, before => do
    expect { newlines := kind ≠ .line, keywords := true, aliases := true }
    let first ← token (commands fuel)
    match first with
    | .newline =>
      documents (commands fuel)
      pure before
    | .end_ =>
      documents (commands fuel)
      pushBack
      modify fun r => { r with token := .end_ }
      pure before
    | _ =>
      pushBack
      if endsList first && (kind = .open_ || (kind = .body && before.isSome)) then pure before
      else
        let next ← junction fuel
        let last ← token (commands fuel)
        let next := if last = .background then inBackground next else next
        let read :=
          match before with
          | none => next
          | some before => .sequence before next
        match last with
        | .end_ =>
          documents (commands fuel)
          pushBack
          modify fun r => { r with token := .end_ }
          pure (some read)
        | .newline =>
          pushBack
          list fuel kind (some read)
        | .background | .semicolon => list fuel kind (some read)
        | _ =>
          if kind = .line then unexpected
          else
            pushBack
            pure (some read)

def junction : Nat → Read Statement
  | 0 => pure default
  | fuel + 1 => do junctionFrom fuel (← pipeline fuel)

def junctionFrom : Nat → Statement → Read Statement
  | 0, first => pure first
  | fuel + 1, first => do
    match ← token (commands fuel) with
    | .and_ =>
      expect { newlines := true, keywords := true, aliases := true }
      junctionFrom fuel (.both first (← pipeline fuel))
    | .or_ =>
      expect { newlines := true, keywords := true, aliases := true }
      junctionFrom fuel (.either first (← pipeline fuel))
    | _ =>
      pushBack
      pure first

def pipeline : Nat → Read Statement
  | 0 => pure default
  | fuel + 1 => do
    let negated := (← token (commands fuel)) = .keyword .not
    if negated then expect { keywords := true, aliases := true } else pushBack
    let first ← command fuel
    let rest ← pipelineRest fuel
    let all := if rest.isEmpty then first else .pipeline false (first :: rest)
    pure (if negated then .negated all else all)

def pipelineRest : Nat → Read (List Statement)
  | 0 => pure []
  | fuel + 1 => do
    if (← token (commands fuel)) = .pipe then
      expect { newlines := true, keywords := true, aliases := true }
      let next ← command fuel
      pure (next :: (← pipelineRest fuel))
    else
      pushBack
      pure []

def body : Nat → Read Statement
  | 0 => pure default
  | fuel + 1 => do pure ((← list fuel .body none).getD default)

def keyword : Nat → Keyword → Read Unit
  | 0, _ => pure ()
  | fuel + 1, k => do
    if (← token (commands fuel)) ≠ .keyword k then unexpected (some (.keyword k))

def conditional : Nat → Read Statement
  | 0 => pure default
  | fuel + 1 => do
    let test ← body fuel
    keyword fuel .then_
    let yes ← body fuel
    match ← token (commands fuel) with
    | .keyword .elif => pure (.conditional test yes (some (← conditional fuel)))
    | .keyword .else_ => pure (.conditional test yes (some (← body fuel)))
    | _ =>
      pushBack
      pure (.conditional test yes none)

def branches : Nat → Read (List (List Word × Option Statement))
  | 0 => pure []
  | fuel + 1 => do
    expect { newlines := true, keywords := true }
    let first ← token (commands fuel)
    if first = .keyword .esac then pure []
    else
      if first = .open_ then let _ ← token (commands fuel)
      let words ← patterns (commands fuel) mostSteps
      if (← get).token ≠ .close then unexpected (some .close)
      let content ← list fuel .open_ none
      expect { newlines := true, keywords := true }
      match ← token (commands fuel) with
      | .keyword .esac => pure [(words, content)]
      | .endCase => pure ((words, content) :: (← branches fuel))
      | _ => unexpected (some .endCase)

def loopWords : Nat → Read (List Word)
  | 0 => pure []
  | fuel + 1 => do
    expect { newlines := true, keywords := true, aliases := true }
    if (← token (commands fuel)) = .keyword .in_ then
      let read ← words (commands fuel) mostSteps
      let last := (← get).token
      if last ≠ .newline && last ≠ .semicolon then unexpected
      pure read
    else
      if (← get).token ≠ .semicolon then pushBack
      pure [[.quote, .parameter ⟨"@", .plain, false⟩ [], .quote]]

def compound : Nat → Nat → Token → Read Statement
  | 0, _, _ => pure default
  | fuel + 1, line, first => do
    match first with
    | .keyword .if_ =>
      let read ← conditional fuel
      keyword fuel .fi
      pure read
    | .keyword .while_ | .keyword .until_ =>
      let test ← body fuel
      keyword fuel .do_
      let read ← body fuel
      keyword fuel .done
      pure (.loop (first = .keyword .while_) test read)
    | .keyword .for_ =>
      let found ← token (commands fuel)
      let r ← get
      match if found = .word && !r.quoted then plainText? r.word else none with
      | none => fail "Bad for loop variable"
      | some name =>
        if !isName name then fail "Bad for loop variable"
        let words ← loopWords fuel
        expect { newlines := true, keywords := true, aliases := true }
        keyword fuel .do_
        let read ← body fuel
        keyword fuel .done
        pure (.iteration line (String.ofList name) words read)
    | .keyword .case =>
      if (← token (commands fuel)) ≠ .word then unexpected (some .word)
      let word := (← get).word
      expect { newlines := true, keywords := true, aliases := true }
      keyword fuel .in_
      pure (.choice line word (← branches fuel))
    | .open_ =>
      let read ← body fuel
      if (← token (commands fuel)) ≠ .close then unexpected (some .close)
      pure (.subshell line read [])
    | .keyword .prepare =>
      let read ← body fuel
      keyword fuel .end_
      pure read
    | _ => unexpected

def command : Nat → Read Statement
  | 0 => pure default
  | fuel + 1 => do
    let line := (← get).source.line
    let first ← token (commands fuel)
    if first = .word || first = .redirection then
      pushBack
      simple fuel
    else
      let read ← compound fuel line first
      expect { keywords := true, aliases := true }
      pure (withRedirections line read (← redirections (commands fuel) mostSteps))

def simple : Nat → Read Statement
  | 0 => pure default
  | fuel + 1 => do
    let line := (← get).source.line
    let (parts, isDefinition) ← simpleParts (commands fuel) mostSteps {}
    if isDefinition then
      if (← token (commands fuel)) ≠ .close then unexpected (some .close)
      let name := (parts.words.head?.bind plainText?).getD []
      if !isName name || specialNames.contains (String.ofList name) then fail "Bad function name"
      expect { newlines := true, keywords := true, aliases := true }
      pure (.definition (String.ofList name) (← command fuel))
    else
      pure (.simple line parts.assignments.reverse parts.words.reverse parts.redirections.reverse)

end

end Read

inductive Complete where
  | statement (s : Statement)
  | empty
  | ended

def Read.complete : Read Complete := do
  modify fun r => { r with again := false, expecting := {}, awaited := [] }
  match ← Read.list mostSteps .line none with
  | some s => pure (.statement s)
  | none => pure (if (← get).token = .end_ then .ended else .empty)

end TaskRunner.Host.Shell
