import TaskRunner.Host.Shell.Reader

/-! Words and other tokens. Inside a word the meaning of a character depends on the quotes, the
braces of a parameter and the parentheses of a calculation that stand around it, so these contexts
are kept in a stack. The commands inside a word are read by a reader of commands that is handed in. -/

namespace TaskRunner.Host.Shell

inductive Quoting where
  | none
  | single
  | double
  | arithmetic
  deriving DecidableEq, Repr

structure Context where
  quoting : Quoting
  doubleQuoted : Bool
  innerQuotes : Bool := false
  braces : Nat := 0
  quotedBraces : Nat := 0
  ofBrace : Bool := false
  parentheses : Nat := 0

inductive Meaning where
  | newline
  | ordinary
  | guarded
  | backslash
  | openSingle
  | openDouble
  | closeQuote
  | dollar
  | closeBrace
  | backquote
  | openParenthesis
  | closeParenthesis
  | separator
  deriving DecidableEq, Repr

def isControl (c : Char) : Bool := 0x81 ≤ c.toNat && c.toNat ≤ 0x88

def isPatternChar (c : Char) : Bool := "!*?[=~:/-]".toList.contains c

def Quoting.meaning (q : Quoting) (c : Char) : Meaning :=
  if c = '\n' then .newline
  else if isControl c then .guarded
  else
    match q with
    | .none =>
      match c with
      | '\\' => .backslash
      | '\'' => .openSingle
      | '"' => .openDouble
      | '`' => .backquote
      | '$' => .dollar
      | '\x7d' => .closeBrace
      | c => if "<>();&| \t".toList.contains c then .separator else .ordinary
    | .double =>
      match c with
      | '\\' => .backslash
      | '"' => .closeQuote
      | '`' => .backquote
      | '$' => .dollar
      | '\x7d' => .closeBrace
      | c => if isPatternChar c then .guarded else .ordinary
    | .single =>
      if c = '\'' then .closeQuote
      else if isPatternChar c || c = '\\' then .guarded
      else .ordinary
    | .arithmetic =>
      match c with
      | '\\' => .backslash
      | '`' => .backquote
      | '$' => .dollar
      | '\x7d' => .closeBrace
      | '(' => .openParenthesis
      | ')' => .closeParenthesis
      | _ => .ordinary

inductive Ending where
  | open_
  | mark (line : List Char) (dropTabs : Bool)
  deriving DecidableEq, Repr

inductive OpenPart where
  | parameter (p : Parameter) (before : Word)
  | arithmetic (before : Word)

structure Writing where
  context : Context
  outer : List Context := []
  parts : List OpenPart := []
  symbols : Word := []
  quoted : Bool := false

namespace Writing

def add (w : Writing) (symbol : Symbol) : Writing := { w with symbols := symbol :: w.symbols }

def plain (w : Writing) (c : Char) : Writing := w.add (.plain c)

def escaped (w : Writing) (c : Char) : Writing := w.add (.escaped c)

def change (w : Writing) (f : Context → Context) : Writing := { w with context := f w.context }

def push (w : Writing) (context : Context) : Writing :=
  { w with context, outer := w.context :: w.outer }

def pop (w : Writing) : Writing :=
  match w.outer with
  | context :: outer => { w with context, outer }
  | [] => w

def closePart (w : Writing) : Writing :=
  match w.parts with
  | .parameter p before :: parts =>
    { w with parts, symbols := .parameter p w.symbols.reverse :: before }
  | .arithmetic before :: parts =>
    { w with parts, symbols := .arithmetic w.symbols.reverse :: before }
  | [] => w

def openPart (w : Writing) (part : Word → OpenPart) : Writing :=
  { w with parts := part w.symbols :: w.parts, symbols := [] }

def quoteMark (inDocument : Bool) (w : Writing) : Writing :=
  if inDocument then w else w.add .quote

def doubleMark (inDocument : Bool) (w : Writing) : Writing :=
  (if w.context.braces = 0 then w
    else w.change fun x => { x with innerQuotes := !x.innerQuotes }).quoteMark inDocument

end Writing

namespace Read

structure Commands where
  parenthesized : Read (Option Statement)
  whole : Read (Option Statement)

/-- Characters of a name from one that was read already; the one behind it comes with the answer. -/
def nameChars (accept : Char → Bool) : Nat → Option Char → List Char →
    Read (List Char × Option Char)
  | 0, c, name => pure (name.reverse, c)
  | most + 1, c, name =>
    match c with
    | some d =>
      if accept d then do nameChars accept most (← nextChar) (d :: name)
      else pure (name.reverse, c)
    | none => pure (name.reverse, c)

def treatment? : Option Char → Option Treatment
  | some '\x7d' => some .plain
  | some '-' => some .orElse
  | some '+' => some .ifSet
  | some '?' => some .orFail
  | some '=' => some .orAssign
  | _ => none

/-- The name of a parameter between braces, whether its length is asked for, and the character
behind it. No name comes with an answer that cannot be used. -/
def bracedName : Option Char → Read (Option (Raw × Bool) × Option Char)
  | none => pure (none, none)
  | some c => do
    let word (start : Option Char) (length : Bool) : Read (Option (Raw × Bool) × Option Char) := do
      let accept := if start.any Char.isDigit then Char.isDigit else isNameChar
      let (name, after) ← nameChars accept mostSteps start []
      pure (some (String.ofList name, length), after)
    if isNameChar c then word (some c) false
    else if c = '\x7d' then pure (none, some c)
    else
      let after ← nextChar
      if c = '#' then
        if after.any isNameChar then word after true
        else
          -- a special parameter, of which only the length can be asked for
          let behind ← nextChar
          if after = some '\x7d' || behind ≠ some '\x7d' then
            unread behind
            pure (some ("#", false), after)
          else if after.any isSpecial then pure (some ((after.getD ' ').toString, true), behind)
          else pure (none, behind)
      else if isSpecial c then pure (some (c.toString, false), after)
      else pure (none, after)

def bracedTreatment (c : Option Char) : Read (Treatment × Bool) := do
  match c with
  | some ':' =>
    match treatment? (← nextChar) with
    | some treatment => pure (treatment, true)
    | none => pure (.invalid, true)
  | some '%' => do
    let again ← nextChar
    if again ≠ some '%' then unread again
    pure (.dropEnd (again = some '%'), false)
  | some '#' => do
    let again ← nextChar
    if again ≠ some '#' then unread again
    pure (.dropStart (again = some '#'), false)
  | c =>
    match treatment? c with
    | some treatment => pure (treatment, false)
    | none => pure (.invalid, false)

def openParameter (w : Writing) (p : Parameter) : Writing :=
  let trims :=
    match p.treatment with
    | .dropEnd _ | .dropStart _ => true
    | _ => false
  let quoting :=
    if trims then Quoting.none
    else if w.context.quoting = .arithmetic then .double
    else w.context.quoting
  let w :=
    if quoting ≠ w.context.quoting || w.context.innerQuotes then
      w.push { quoting, doubleQuoted := quoting ≠ .none, ofBrace := true }
    else w
  let w := w.change fun x =>
    { x with
      braces := x.braces + 1
      quotedBraces := if x.doubleQuoted then x.quotedBraces + 1 else x.quotedBraces }
  w.openPart (.parameter p)

def bracedParameter (w : Writing) : Read Writing := do
  let (name, after) ← bracedName (← nextChar)
  match name with
  | none =>
    unread after
    pure (openParameter w ⟨"", .invalid, false⟩)
  | some (name, true) =>
    unread after
    pure (openParameter w ⟨name, if after = some '\x7d' then .length else .invalid, false⟩)
  | some (name, false) =>
    let (treatment, colon) ← bracedTreatment after
    if treatment = .plain && !colon then pure (w.add (.parameter ⟨name, .plain, false⟩ []))
    else pure (openParameter w ⟨name, treatment, colon⟩)

def dollar (commands : Commands) (w : Writing) : Read Writing := do
  let plainDollar (c : Option Char) : Read Writing := do
    unread c
    pure (w.plain '$')
  let c ← nextChar
  if (← get).expecting.endMark then plainDollar c
  else
    match c with
    | some '(' =>
      match ← nextChar with
      | some '(' =>
        pure ((w.push { quoting := .arithmetic, doubleQuoted := true }).openPart .arithmetic)
      | c =>
        unread c
        let awaited := (← get).awaited
        modify fun r => { r with awaited := [] }
        let body ← commands.parenthesized
        modify fun r => { r with awaited }
        pure (w.add (.command body))
    | some '\x7b' => bracedParameter w
    | some d =>
      if isNameStart d then
        let (name, after) ← nameChars isNameChar mostSteps c []
        unread after
        pure (w.add (.parameter ⟨String.ofList name, .plain, false⟩ []))
      else if isSpecial d then pure (w.add (.parameter ⟨d.toString, .plain, false⟩ []))
      else plainDollar c
    | none => plainDollar c

/-- The text between backquotes; `text` holds what was read, the last character first. -/
def backquotedText (doubleQuoted : Bool) : Nat → List Char → Read (List Char)
  | 0, text => pure text.reverse
  | most + 1, text => do
    match ← nextChar with
    | none => fail "EOF in backquote substitution"
    | some '`' => pure text.reverse
    | some '\\' =>
      match ← next with
      | none => backquotedText doubleQuoted most ('\\' :: text)
      | some c =>
        if c = '\\' || c = '`' || c = '$' || (doubleQuoted && c = '"') then
          backquotedText doubleQuoted most (c :: text)
        else backquotedText doubleQuoted most (c :: '\\' :: text)
    | some c =>
      if c = '\n' then countLine
      backquotedText doubleQuoted most (c :: text)

def backquoted (commands : Commands) (w : Writing) : Read Writing := do
  let text ← backquotedText w.context.doubleQuoted mostSteps []
  let outer ← get
  set { outer with source := { rest := text }, awaited := [], again := false }
  let body ← commands.whole
  modify fun r => { r with source := outer.source, awaited := outer.awaited, again := false }
  pure (w.add (.command body))

def dropTabs : Nat → Option Char → Read (Option Char)
  | 0, c => pure c
  | most + 1, c => if c = some '\t' then do dropTabs most (← next) else pure c

/-- Reads the line that ends a document, the first character of which was read already. What does
not match is put back. -/
def matchMark : List Char → Option Char → List (Option Char) → Read (Bool × Option Char)
  | [], c, before =>
    if c = some '\n' || c = none then do
      countLine
      pure (true, none)
    else putBack (c :: before)
  | m :: mark, c, before => do
    if c = some m then matchMark mark (← next) (c :: before) else putBack (c :: before)
where
  putBack (read : List (Option Char)) : Read (Bool × Option Char) := do
    read.dropLast.forM unread
    pure (false, read.getLast?.join)

def atLineStart (ending : Option Ending) (c : Option Char) : Read (Bool × Option Char) := do
  match ending with
  | some (.mark line drop) =>
    let c ← if drop then dropTabs mostSteps c else pure c
    matchMark line c []
  | _ => pure (false, c)

/-- The next character of a word. Between single quotes lines are not joined. -/
def nextIn (w : Writing) : Read (Option Char) :=
  if w.context.quoting = .single then next else nextChar

def backslash (inDocument : Bool) (w : Writing) : Read Writing := do
  match ← next with
  | none => pure (w.escaped '\\')
  | some c =>
    let x := w.context
    let keeps := x.doubleQuoted && c ≠ '\\' && c ≠ '`' && c ≠ '$' &&
      (c ≠ '"' || (inDocument && x.braces = 0)) && (c ≠ '\x7d' || x.braces = 0)
    let w := if keeps then w.escaped '\\' else w
    pure { w.escaped c with quoted := true }

def closeQuote (inDocument : Bool) (c : Char) (w : Writing) : Writing :=
  if inDocument && w.context.braces = 0 then w.plain c
  else
    let w :=
      if w.context.quotedBraces = 0 then
        w.change fun x => { x with quoting := .none, doubleQuoted := false }
      else w
    let w := { w with quoted := true }
    if c = '"' then w.doubleMark inDocument else w.quoteMark inDocument

def closeBrace (w : Writing) : Writing :=
  let x := w.context
  if !x.innerQuotes && 0 < x.braces then
    let w := w.change fun x => { x with braces := x.braces - 1 }
    let w :=
      if x.braces = 1 && x.ofBrace then w.pop
      else w.change fun x => { x with quotedBraces := x.quotedBraces - 1 }
    w.closePart
  else w.plain '\x7d'

def closeParenthesis (w : Writing) : Read Writing := do
  if 0 < w.context.parentheses then
    pure ((w.plain ')').change fun x => { x with parentheses := x.parentheses - 1 })
  else
    match ← nextChar with
    | some ')' => pure w.pop.closePart
    | c =>
      unread c
      pure (w.plain ')')

/-- Reads the rest of a word or a text from a character on; answers the character that ended it. -/
def symbols (commands : Commands) (ending : Option Ending) :
    Nat → Writing → Option Char → Read (Writing × Option Char)
  | 0, w, c => pure (w, c)
  | most + 1, w, c => do
    let inDocument := ending.isSome
    let goOn (w : Writing) : Read (Writing × Option Char) := do
      symbols commands ending most w (← nextIn w)
    match c with
    | none => pure (w, none)
    | some d =>
      match w.context.quoting.meaning d with
      | .newline =>
        if w.context.quoting = .none && w.context.braces = 0 then pure (w, c)
        else
          countLine
          let w := w.plain d
          let (ended, c) ← atLineStart ending (← nextIn w)
          if ended then pure (w, none) else symbols commands ending most w c
      | .ordinary => goOn (w.plain d)
      | .guarded =>
        goOn (if inDocument && !w.context.doubleQuoted then w.plain d else w.escaped d)
      | .backslash => goOn (← backslash inDocument w)
      | .openSingle =>
        goOn ((w.change fun x => { x with quoting := .single }).quoteMark inDocument)
      | .openDouble =>
        goOn ((w.change fun x => { x with quoting := .double, doubleQuoted := true }).doubleMark
          inDocument)
      | .closeQuote => goOn (closeQuote inDocument d w)
      | .dollar => goOn (← dollar commands w)
      | .closeBrace => goOn (closeBrace w)
      | .backquote =>
        if (← get).expecting.endMark then goOn { w.plain d with quoted := true }
        else goOn (← backquoted commands w)
      | .openParenthesis =>
        goOn ((w.plain d).change fun x => { x with parentheses := x.parentheses + 1 })
      | .closeParenthesis => goOn (← closeParenthesis w)
      | .separator => if w.context.braces = 0 then pure (w, c) else goOn (w.plain d)

def writing (commands : Commands) (ending : Option Ending) (quoting : Quoting) (c : Option Char) :
    Read (Writing × Option Char) := do
  let start : Writing := { context := { quoting, doubleQuoted := quoting = .double } }
  let (ended, c) ← atLineStart ending c
  let (w, c) ← if ended then pure (start, none) else symbols commands ending mostSteps start c
  if w.context.quoting = .arithmetic then fail "Missing '))'"
  else if w.context.quoting ≠ .none && ending.isNone then fail "Unterminated quoted string"
  else if w.context.braces ≠ 0 then fail "Missing '\x7d'"
  else pure (w, c)

def arrow (first : Char) : Read Arrow := do
  let c ← nextChar
  if first = '>' then
    match c with
    | some '>' => pure (.file .append)
    | some '|' => pure (.file .overwrite)
    | some '&' => pure (.file .outputTo)
    | c =>
      unread c
      pure (.file .output)
  else
    match c with
    | some '<' =>
      match ← nextChar with
      | some '-' => pure (.document true)
      | c =>
        unread c
        pure (.document false)
    | some '&' => pure (.file .inputFrom)
    | some '>' => pure (.file .both)
    | c =>
      unread c
      pure (.file .input)

def wordToken (commands : Commands) (c : Option Char) : Read Token := do
  let (w, c) ← writing commands none .none c
  let word := w.symbols.reverse
  let digit : Option (Option Nat) :=
    match word with
    | [] => some none
    | [.plain d] => if d.isDigit then some (some (d.toNat - '0'.toNat)) else none
    | _ => none
  let plainWord : Read Token := do
    unread c
    modify fun r => { r with word, quoted := w.quoted, token := .word }
    pure .word
  match c, digit with
  | some first, some number =>
    if (first = '<' || first = '>') && !w.quoted then
      let arrow ← arrow first
      let number := number.getD (if first = '>' then 1 else 0)
      modify fun r => { r with arrow := (number, arrow), token := .redirection }
      pure .redirection
    else plainWord
  | _, _ => plainWord

def comment : Nat → Read Unit
  | 0 => pure ()
  | most + 1 => do
    match ← next with
    | none => pure ()
    | some '\n' => unread (some '\n')
    | some _ => comment most

def ended (token : Token) : Read Token := do
  modify fun r => { r with token }
  pure token

def doubled (c : Char) (double single : Token) : Read Token := do
  let d ← nextChar
  if d = some c then ended double
  else
    unread d
    ended single

def rawToken (commands : Commands) : Nat → Read Token
  | 0 => pure .end_
  | most + 1 => do
    let r ← get
    if r.again then
      set { r with again := false }
      pure r.token
    else
      match ← nextChar with
      | none => ended .end_
      | some ' ' | some '\t' => rawToken commands most
      | some '#' =>
        comment mostSteps
        rawToken commands most
      | some '\n' =>
        countLine
        ended .newline
      | some '&' => doubled '&' .and_ .background
      | some '|' => doubled '|' .or_ .pipe
      | some ';' => doubled ';' .endCase .semicolon
      | some '(' => ended .open_
      | some ')' => ended .close
      | c => wordToken commands c

def awaitedDocuments (commands : Commands) : List Awaited → Read Unit
  | [] => pure ()
  | awaited :: rest => do
    let quoting := if awaited.expands then Quoting.double else .single
    let c ← if awaited.expands then nextChar else next
    let (w, _) ← writing commands (some (.mark awaited.mark awaited.dropTabs)) quoting c
    let document : Document := ⟨awaited.expands, w.symbols.reverse⟩
    modify fun r => { r with documents := (awaited.number, document) :: r.documents }
    awaitedDocuments commands rest

def documents (commands : Commands) : Read Unit := do
  let awaited := (← get).awaited
  modify fun r => { r with awaited := [] }
  awaitedDocuments commands awaited

def passNewlines (commands : Commands) : Nat → Token → Read Token
  | 0, token => pure token
  | most + 1, token =>
    if token = .newline then do
      documents commands
      modify fun r => { r with expecting := {} }
      passNewlines commands most (← rawToken commands mostSteps)
    else pure token

def tokenFor (commands : Commands) : Nat → Expecting → Read Token
  | 0, _ => pure .end_
  | most + 1, expecting => do
    let token ← rawToken commands mostSteps
    let token ← if expecting.newlines then passNewlines commands mostSteps token else pure token
    let r ← get
    set { r with expecting := {} }
    let expecting : Expecting :=
      { keywords := expecting.keywords || r.expecting.keywords
        aliases := expecting.aliases || r.expecting.aliases
        newlines := expecting.newlines || r.expecting.newlines
        endMark := expecting.endMark || r.expecting.endMark }
    if token ≠ .word || r.quoted then pure token
    else
      match plainText? r.word with
      | none => pure token
      | some text =>
        let name := String.ofList text
        match if expecting.keywords then Keyword.ofWord? name else none with
        | some keyword => ended (.keyword keyword)
        | none =>
          match ← if expecting.aliases then freeAlias? name else pure none with
          | some text =>
            if text ≠ "" then insertAlias name text
            tokenFor commands most expecting
          | none => pure token

def token (commands : Commands) : Read Token := do tokenFor commands mostSteps (← get).expecting

def expect (expecting : Expecting) : Read Unit := modify fun r => { r with expecting }

def pushBack : Read Unit := modify fun r => { r with again := true }

def unexpected {α : Type} (wanted : Option Token := none) : Read α := do
  let found := (← get).token.text
  match wanted with
  | some token => fail s!"{found} unexpected (expecting {token.text})"
  | none => fail s!"{found} unexpected"

end Read
end TaskRunner.Host.Shell
