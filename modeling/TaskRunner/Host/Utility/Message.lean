import TaskRunner.Host.World

/-! The messages in which the utilities complain. A file name in a message is set in quotes in such
a way that a shell would read the name from it; other words are set in plain quotes, with
backslashes in front of what could be misread. Only printable ASCII is shown as it is. -/

namespace TaskRunner.Host.Utility

def isPrintable (c : Char) : Bool := ' ' ≤ c && c < '\x7f'

def isHarmless (c : Char) : Bool := c.isAlphanum || " '%+,-./:]_".toList.contains c

def isSpecial (c : Char) : Bool := " !\"$&'()*;<=>?[\\^`|".toList.contains c

def needsQuotes (name : Raw) : Bool :=
  name = "" || name = "\x7b" || name = "\x7d" || name.startsWith "#" || name.startsWith "~" ||
    name.toList.any fun c => isSpecial c || !isPrintable c

def octal (n : Nat) : List Char := [n / 64, n / 8 % 8, n % 8].map Nat.digitChar

def escapeOf (c : Char) : List Char :=
  match c.toNat with
  | 7 => ['\\', 'a']
  | 8 => ['\\', 'b']
  | 9 => ['\\', 't']
  | 10 => ['\\', 'n']
  | 11 => ['\\', 'v']
  | 12 => ['\\', 'f']
  | 13 => ['\\', 'r']
  | n => '\\' :: octal n

/-- The inside of a quoted name; `escaped` tells whether the character before was written as an
escape. -/
def quoteChars (escaped : Bool) : List Char → List Char
  | [] => ['\'']
  | c :: cs =>
    if !isPrintable c then
      (if escaped then [] else "'$'".toList) ++ escapeOf c ++ quoteChars true cs
    else
      (if escaped then "''".toList else []) ++ (if c = '\'' then "'\\''".toList else [c]) ++
        quoteChars false cs

/-- A name in quotes. One that holds an apostrophe, and nothing that is special in double quotes,
is set in those. -/
def quoted (name : Raw) : String :=
  match name.toList with
  | [] => "''"
  | c :: cs =>
    if name.toList.contains '\'' && (isHarmless c || c = '#' || c = '~') && cs.all isHarmless then
      "\"" ++ name ++ "\""
    else String.ofList ('\'' :: quoteChars false (c :: cs))

def named (name : Raw) : String := if needsQuotes name then quoted name else name

def subject (name : Raw) : String :=
  if name.toList.contains ':' then quoted name else named name

def cited (word : Raw) : String :=
  "'" ++ String.ofList (word.toList.flatMap fun c =>
    if c = '\'' || c = '\\' then ['\\', c] else if isPrintable c then [c] else escapeOf c) ++ "'"

def hint (name : Raw) : Act Nat := do
  Act.complain s!"Try '{name} --help' for more information."
  pure 1

def misused (name text : Raw) : Act Nat := do
  Act.complain s!"{name}: {text}"
  hint name

def closing (program : Program) : Program := fun name arguments => do
  let code ← program name arguments
  match (← get).process.unsaid with
  | none => pure code
  | some e =>
    Act.complain s!"{name}: write error: {e.text}"
    pure 1

end TaskRunner.Host.Utility
