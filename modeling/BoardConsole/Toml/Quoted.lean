import BoardConsole.Text.Number

/-!
# Toml — Texts in quotes

A text is written in one of four forms: between double quotes with escapes, or between single quotes
as it stands, each on one line or, between tripled quotes, on several. `quote` chooses the plainest
form that can hold a text; the readers take what follows the opening quotes and answer the text and
what follows the closing ones. In the forms of several lines every line end is read as a newline,
and one right after the opening quotes does not count.
-/

namespace BoardConsole.Toml.Quoted

/-! ### Characters -/

/-- A control character other than a tab. -/
def isControl (c : Char) : Bool :=
  (c.toNat < 0x20 && c != '\t') || c.toNat == 0x7F

/-- The line end that the characters begin with is passed over. -/
def lineEnd? : List Char → Option (List Char)
  | '\n' :: cs         => some cs
  | '\r' :: '\n' :: cs => some cs
  | _                  => none

/-- A blank inside a line. -/
def isSpace (c : Char) : Bool := c == ' ' || c == '\t'

/-! ### Reading -/

/-- The character of a code in digits of base sixteen, where it is one. -/
def codePoint? (digits : List Char) : Option Char :=
  match Text.nat? 16 digits with
  | some n => if n.isValidChar then some (Char.ofNat n) else none
  | none   => none

/-- The character of an escape of `width` digits and what follows it. -/
def unicode? (width : Nat) (cs : List Char) : Option (Char × List Char) :=
  if (cs.take width).length = width then (codePoint? (cs.take width)).map fun c => (c, cs.drop width)
  else none

/-- The character that an escape stands for, after its backslash, and what follows it. -/
def escape? : List Char → Option (Char × List Char)
  | 'b' :: cs  => some ('\x08', cs)
  | 't' :: cs  => some ('\t', cs)
  | 'n' :: cs  => some ('\n', cs)
  | 'f' :: cs  => some ('\x0c', cs)
  | 'r' :: cs  => some ('\r', cs)
  | '"' :: cs  => some ('"', cs)
  | '\\' :: cs => some ('\\', cs)
  | 'u' :: cs  => unicode? 4 cs
  | 'U' :: cs  => unicode? 8 cs
  | _          => none

/-- A text and what follows it. -/
abbrev Read := Option (List Char × List Char)

/-- Puts characters in front of a text that was read. -/
def Read.push (front : List Char) (r : Read) : Read := r.map fun (text, rest) => (front ++ text, rest)

/-- The rest of a text in double quotes. `fuel` bounds the characters read. -/
def readBasic : (fuel : Nat) → List Char → Read
  | 0, _ => none
  | _, [] => none
  | fuel + 1, c :: cs =>
    if c = '"' then some ([], cs)
    else if c = '\\' then
      match escape? cs with
      | some (d, rest) => (readBasic fuel rest).push [d]
      | none           => none
    else if isControl c then none
    else (readBasic fuel cs).push [c]

/-- The rest of a text in single quotes. -/
def readLiteral : List Char → Read
  | []      => none
  | c :: cs =>
    if c = '\'' then some ([], cs)
    else if isControl c then none
    else (readLiteral cs).push [c]

/-- What follows any blanks and line ends. -/
def skipBlanks : List Char → List Char
  | '\r' :: '\n' :: cs => skipBlanks cs
  | c :: cs            => if isSpace c || c == '\n' then skipBlanks cs else c :: cs
  | []                 => []

/-- What follows a backslash at the end of a line: the blanks and line ends up to the next
character are passed over. -/
def continued? (cs : List Char) : Option (List Char) :=
  if (lineEnd? (cs.dropWhile isSpace)).isSome then some (skipBlanks cs) else none

/-- The quotes that the characters begin with, five at most, and what follows them. -/
def splitQuotes (q : Char) (cs : List Char) : Nat × List Char :=
  let n := min 5 (cs.takeWhile (· == q)).length
  (n, cs.drop n)

/-- The rest of a text in tripled quotes: double ones with escapes, or single ones without. -/
def readLines (q : Char) : (fuel : Nat) → List Char → Read
  | 0, _ => none
  | _, [] => none
  | fuel + 1, c :: cs =>
    if c = q then
      let (n, rest) := splitQuotes q (c :: cs)
      if 3 ≤ n then some (List.replicate (n - 3) q, rest)
      else (readLines q fuel rest).push (List.replicate n q)
    else if c = '\\' ∧ q = '"' then
      match continued? cs with
      | some rest => readLines q fuel rest
      | none =>
        match escape? cs with
        | some (d, rest) => (readLines q fuel rest).push [d]
        | none           => none
    else
      match lineEnd? (c :: cs) with
      | some rest => (readLines q fuel rest).push ['\n']
      | none      => if isControl c then none else (readLines q fuel cs).push [c]

/-- The text after an opening quote, on one line. -/
def readLine (q : Char) (cs : List Char) : Read :=
  if q = '"' then readBasic (cs.length + 1) cs else readLiteral cs

/-- The text after opening quotes: one of them has been passed over. -/
def read (q : Char) (cs : List Char) : Read :=
  if cs.take 2 = [q, q] then
    let inner := cs.drop 2
    readLines q (inner.length + 1) ((lineEnd? inner).getD inner)
  else readLine q cs

/-! ### Writing -/

/-- The longest run of a character. -/
def longestRun (q : Char) : (run longest : Nat) → List Char → Nat
  | run, longest, []      => max run longest
  | run, longest, c :: cs =>
    if c = q then longestRun q (run + 1) longest cs else longestRun q 0 (max run longest) cs

/-- How a character stands in a form with escapes, the quote and the newline apart. -/
def escaped (c : Char) : List Char :=
  if c = '\x08' then ['\\', 'b']
  else if c = '\t' then ['\\', 't']
  else if c = '\x0c' then ['\\', 'f']
  else if c = '\r' then ['\\', 'r']
  else if c = '\\' then ['\\', '\\']
  else if isControl c then
    '\\' :: 'u' :: (Text.paddedDigits 16 4 c.toNat).map Char.toUpper
  else [c]

/-- How a character stands between double quotes on one line. -/
def escapedInLine (c : Char) : List Char :=
  if c = '"' then ['\\', '"'] else if c = '\n' then ['\\', 'n'] else escaped c

/-- How a text stands between tripled double quotes: every third quote in a row is escaped. -/
def escapeLines : (run : Nat) → List Char → List Char
  | _, []        => []
  | run, c :: cs =>
    if c = '"' then
      if run = 2 then '\\' :: '"' :: escapeLines 0 cs else '"' :: escapeLines (run + 1) cs
    else if c = '\n' then '\n' :: escapeLines 0 cs
    else escaped c ++ escapeLines 0 cs

/-- The four forms. -/
inductive Form where
  | basic
  | literal
  | basicLines
  | literalLines
deriving DecidableEq, Repr

/-- The plainest form that holds a text. -/
def form (cs : List Char) : Form :=
  let control := cs.any fun c => isControl c && c != '\n'
  let backslash := cs.contains '\\'
  let newline := cs.contains '\n'
  let double := longestRun '"' 0 0 cs
  let single := longestRun '\'' 0 0 cs
  if !control && !backslash && double == 0 && !newline then .basic
  else if !control && single == 0 && !newline then .literal
  else if !control && !backslash && double ≤ 2 then .basicLines
  else if !control && single ≤ 2 then .literalLines
  else if newline then .basicLines
  else .basic

/-- What stands after the opening quotes of several lines. -/
def opening (cs : List Char) : List Char := if cs.contains '\n' then ['\n'] else []

/-- A text in quotes. -/
def quote (cs : List Char) : List Char :=
  match form cs with
  | .basic        => '"' :: cs.flatMap escapedInLine ++ ['"']
  | .literal      => '\'' :: cs ++ ['\'']
  | .basicLines   => ['"', '"', '"'] ++ opening cs ++ escapeLines 0 cs ++ ['"', '"', '"']
  | .literalLines => ['\'', '\'', '\''] ++ opening cs ++ cs ++ ['\'', '\'', '\'']

end BoardConsole.Toml.Quoted
