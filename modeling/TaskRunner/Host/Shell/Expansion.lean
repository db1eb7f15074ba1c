import TaskRunner.Host.Shell.Arithmetic
import TaskRunner.Host.Shell.Fields
import TaskRunner.Host.Shell.FileNames
import TaskRunner.Host.Shell.Lexer

/-! What words stand for. Parameters, commands and calculations are replaced by their values, and
tildes by directories; then the text is cut into fields, and fields that are patterns are replaced by
file names. How commands in a word are run is handed in. -/

namespace TaskRunner.Host.Shell
namespace Expansion

abbrev Substitute := Statement → Run Raw

structure Mode where
  full : Bool := false
  quoted : Bool := false
  assignment : Bool := false
  behindEquals : Bool := false
  inner : Bool := false

def valueGlyphs (quoted : Bool) (value : Raw) : List Glyph :=
  value.toList.map fun c =>
    if isControl c || (quoted && (isPatternChar c || c = '\\')) then .guarded c else .char c

def optionLetters : List (String × Char) :=
  [("privileged", 'p'), ("nounset", 'u'), ("notify", 'b'), ("allexport", 'a'), ("noclobber", 'C'),
    ("emacs", 'E'), ("vi", 'V'), ("verbose", 'v'), ("xtrace", 'x'), ("stdin", 's'),
    ("noexec", 'n'), ("monitor", 'm'), ("interactive", 'i'), ("ignoreeof", 'I'), ("noglob", 'f'),
    ("errexit", 'e')]

/-- Characters that separate fields; the first of them joins parameters. -/
def separators : Run (List Char) := do
  pure (((← Run.value? "IFS").getD " \t\n").toList)

def joinedParameters (full quoted each : Bool) : Run (List Glyph) := do
  let parameters := (← Run.shell).parameters
  let joint : List Glyph ←
    if each && quoted && full then pure [.gap]
    else
      match ← Run.value? "IFS" with
      | none => pure (valueGlyphs quoted " ")
      | some set =>
        if full && !quoted then pure [.gap]
        else pure (valueGlyphs quoted (String.ofList (set.toList.take 1)))
  pure (joint.intercalate (parameters.map (valueGlyphs quoted)))

def parameterValue (full quoted : Bool) (name : Raw) : Run (Option (List Glyph)) := do
  let s ← Run.shell
  let shown (value : Raw) : Option (List Glyph) := some (valueGlyphs quoted value)
  match name with
  | "$" => pure (shown (toString s.root))
  | "?" => pure (shown (toString s.status))
  | "#" => pure (shown (toString s.parameters.length))
  | "!" => pure (s.lastJob.bind fun number => shown (toString number))
  | "-" =>
    pure (shown (String.ofList (optionLetters.filterMap fun (option, letter) =>
      if s.options.contains option then some letter else none)))
  | "@" => some <$> joinedParameters full quoted true
  | "*" => some <$> joinedParameters full quoted false
  | name =>
    if name.toList.head?.any Char.isDigit then
      match name.toNat! with
      | 0 => pure (shown s.name)
      | n + 1 => pure (s.parameters[n]?.bind shown)
    else pure ((← Run.value? name).bind shown)

def notSet {α : Type} (name : Raw) (orNull : Bool) : Run α :=
  Run.fail (s!"{name}: parameter not set" ++ (if orNull then " or null" else ""))

def valueSegment (mode : Mode) (name : Raw) (value : List Glyph) : Run Segment := do
  if !mode.quoted then pure ⟨.atSeparators, value⟩
  else if name = "@" && !(← Run.shell).parameters.isEmpty then pure ⟨.atGaps, value⟩
  else pure ⟨.never, value⟩

/-- The name behind a tilde, and what follows it. There is none if part of it is quoted. -/
def tildeName (inAssignment : Bool) : Word → Option (List Char × Word)
  | [] => some ([], [])
  | .plain c :: rest =>
    if c = '/' || (c = ':' && inAssignment) then some ([], .plain c :: rest)
    else (tildeName inAssignment rest).map fun (name, rest) => (c :: name, rest)
  | _ => none

def homeOf (w : World) (user : Raw) : Option Raw :=
  match w.files.open? [] "/etc/passwd" with
  | .ok (_, _, { body := .file content, .. }) =>
    ((Raw.ofArray content.bytes).splitOn "\n").findSome? fun line =>
      match line.splitOn ":" with
      | [name, _, _, _, _, home, _] => if name = user then some home else none
      | _ => none
  | _ => none

def tilde? (mode : Mode) (word : Word) : Run (Option (List Glyph × Word)) := do
  match word with
  | .plain '~' :: rest =>
    match tildeName mode.assignment rest with
    | none => pure none
    | some (user, rest) =>
      let home ←
        if user = [] then Run.value? "HOME"
        else do pure (homeOf (← Run.world) (String.ofList user))
      match home with
      | none => pure none
      | some home => pure (some (valueGlyphs true home, rest))
  | _ => pure none

def plainSpan : Word → List Char × Word
  | .plain c :: rest =>
    let (text, rest) := plainSpan rest
    (c :: text, rest)
  | word => ([], word)

def textOf (segments : List Segment) : Raw :=
  String.ofList (segments.flatMap fun s => Glyph.text s.glyphs)

def glyphsOf (segments : List Segment) : List Glyph := segments.flatMap (·.glyphs)

mutual

/-- Expands a word; a tilde at its front has a meaning if `tilde` is set. The number bounds the
steps. -/
def segments (run : Substitute) : Nat → Mode → Bool → Bool → Word → Run (List Segment)
  | 0, _, _, _, _ => pure []
  | most + 1, mode, tilde, inQuotes, word => do
    match ← if tilde then tilde? mode word else pure none with
    | some (home, rest) =>
      pure (⟨.never, home⟩ :: (← segments run most mode false inQuotes rest))
    | none => symbols run most mode inQuotes word

def symbols (run : Substitute) : Nat → Mode → Bool → Word → Run (List Segment)
  | 0, _, _, _ => pure []
  | most + 1, mode, inQuotes, word =>
    let quoted := mode.quoted || inQuotes
    let literal (text : List Char) : Segment :=
      ⟨if mode.inner && !quoted then .atSeparators else .never, text.map .char⟩
    match word with
    | [] => pure []
    | .plain c :: rest =>
      if mode.assignment then do
        let tilde := (c = '=' && !mode.behindEquals) || c = ':'
        let behind := { mode with behindEquals := mode.behindEquals || c = '=' }
        pure (literal [c] :: (← segments run most behind tilde inQuotes rest))
      else do
        let (text, rest) := plainSpan (.plain c :: rest)
        pure (literal text :: (← symbols run most mode inQuotes rest))
    | .escaped c :: rest => do
      pure (⟨.never, [.guarded c]⟩ :: (← symbols run most mode inQuotes rest))
    | .quote :: .parameter ⟨"@", .plain, false⟩ word :: .quote :: rest =>
      if inQuotes then do
        let rest := .parameter ⟨"@", .plain, false⟩ word :: .quote :: rest
        pure (⟨.never, [.mark]⟩ :: (← symbols run most mode false rest))
      else do
        let value ← parameter run most { mode with quoted := true } ⟨"@", .plain, false⟩ []
        pure (value ++ (← symbols run most mode false rest))
    | .quote :: rest => do
      pure (⟨.never, [.mark]⟩ :: (← symbols run most mode (!inQuotes) rest))
    | .parameter p word :: rest => do
      let value ← parameter run most { mode with quoted } p word
      -- a colon without a treatment ends the word behind the value
      if p.treatment = .plain && p.colon then
        pure (value ++ (← symbols run most mode inQuotes word))
      else pure (value ++ (← symbols run most mode inQuotes rest))
    | .command body :: rest => do
      let text ←
        match body with
        | some body => run body
        | none => pure ""
      let kept := (text.toList.filter (· ≠ '\x00')).reverse.dropWhile (· = '\n')
      let value := valueGlyphs quoted (String.ofList kept.reverse)
      pure (⟨if quoted then .never else .atSeparators, value⟩ ::
        (← symbols run most mode inQuotes rest))
    | .arithmetic inside :: rest => do
      let text := textOf (← symbols run most {} false inside)
      let value := valueGlyphs quoted (toString (← Arithmetic.evaluate text).toInt)
      pure (⟨if quoted then .never else .atSeparators, value⟩ ::
        (← symbols run most mode inQuotes rest))

def parameter (run : Substitute) : Nat → Mode → Parameter → Word → Run (List Segment)
  | 0, _, _, _ => pure []
  | most + 1, mode, p, word => do
    if p.treatment = .invalid then Run.fail "Bad substitution"
    let counts := p.treatment = .length || p.treatment = .ifSet
    let value ← parameterValue (mode.full && !counts) mode.quoted p.name
    let present := value.filter fun glyphs => !(p.colon && glyphs.isEmpty)
    let shown (glyphs : List Glyph) : Run (List Segment) := do
      pure [← valueSegment mode p.name glyphs]
    let missing : Run Unit := do
      if ← Run.hasOption "nounset" then notSet p.name false
    let inner : Run (List Segment) := segments run most { mode with inner := true } true false word
    match p.treatment, present with
    | .ifSet, some _ => inner
    | .ifSet, none => shown []
    | .orElse, none => inner
    | .orAssign, none => do
      let text := textOf (← segments run most {} true false word)
      Run.set p.name (some text)
      parameter run most mode { p with treatment := .plain, colon := false } []
    | .orFail, none => do
      let text := textOf (← segments run most {} true false word)
      if word.isEmpty then notSet p.name p.colon else Run.fail s!"{p.name}: {text}"
    | .length, none => do
      missing
      shown (valueGlyphs mode.quoted "0")
    | .length, some glyphs => shown (valueGlyphs mode.quoted (toString glyphs.length))
    | .dropStart _, none | .dropEnd _, none | .plain, none | .invalid, none => do
      missing
      pure []
    | .dropStart longest, some glyphs => do
      let trimmed := glyphsOf (← segments run most {} true false word)
      shown (Pattern.trimFront longest (Glyph.pattern trimmed) glyphs)
    | .dropEnd longest, some glyphs => do
      let trimmed := glyphsOf (← segments run most {} true false word)
      shown (Pattern.trimEnd longest (Glyph.pattern trimmed) glyphs)
    | .plain, some glyphs | .orElse, some glyphs | .orAssign, some glyphs | .orFail, some glyphs
    | .invalid, some glyphs => shown glyphs

end

def fieldsOf (run : Substitute) (word : Word) : Run (List Raw) := do
  let found ← segments run unbounded { full := true } true false word
  let w ← Run.world
  let noNames ← Run.hasOption "noglob"
  pure ((fields (← separators) found).flatMap fun field =>
    let plain := String.ofList (Glyph.text field)
    if noNames then [plain]
    else
      match fileNames w (Glyph.pattern field) with
      | [] => [plain]
      | names => names)

def textOfWord (run : Substitute) (word : Word) : Run Raw := do
  pure (textOf (← segments run unbounded {} true false word))

def assignmentText (run : Substitute) (word : Word) : Run Raw := do
  pure (textOf (← segments run unbounded { assignment := true } false false word))

def patternOfWord (run : Substitute) (word : Word) : Run (List Char) := do
  pure (Glyph.pattern (glyphsOf (← segments run unbounded {} true false word)))

def documentText (run : Substitute) (document : Document) : Run Raw := do
  if document.expands then
    pure (textOf (← symbols run unbounded { quoted := true } false document.body))
  else pure (textOf (← symbols run unbounded {} false document.body))

end Expansion
end TaskRunner.Host.Shell
