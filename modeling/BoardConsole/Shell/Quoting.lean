import BoardConsole.Shell.Bytes

/-!
# Shell — Names in quotes

The styles in which names are shown so that they can be told apart or read again: as they are, as a
shell reads them, or with backslashes for what is not printed.
-/

namespace BoardConsole.Shell

/-- A style in which names are shown. -/
inductive Quoting where
  | literal
  /-- As a word of a shell, in quotes always or where they are needed, with what is not printed as it
  is or by its number. -/
  | shell (always escapes : Bool)
  /-- In double quotes, always or where something needs a backslash. -/
  | double (always : Bool)
  /-- Without quotes; blanks and some other characters have backslashes too. -/
  | bare (others : List Char)
  /-- In single quotes. -/
  | single
deriving DecidableEq, Repr

namespace Quoting

/-- The letter that stands for a character after a backslash. -/
def letter? (c : Char) : Option Char :=
  [('\x07', 'a'), ('\x08', 'b'), ('\t', 't'), ('\n', 'n'), ('\x0b', 'v'), ('\x0c', 'f'),
   ('\r', 'r')].lookup c

/-- Whether a character is shown as it is. -/
def isShown (c : Char) : Bool := ' ' ≤ c && c ≤ '~'

/-- A character that is not shown as it is, after a backslash. -/
def escaped (c : Char) : String :=
  match letter? c with
  | some letter => String.ofList ['\\', letter]
  | none        => "\\" ++ String.ofList ((Nat.toDigits 8 (c.toNat % 256 + 512)).drop 1)

/-- A text with backslashes before some characters and for those that are not shown. -/
def withBackslashes (before : List Char) (s : String) : String :=
  String.join (s.toList.map fun c =>
    if before.contains c then String.ofList ['\\', c]
    else if isShown c then String.ofList [c]
    else escaped c)

/-- Whether a character means something to a shell, where others stand before it or it is alone. -/
def isSpecial (isFirst isOnly : Bool) (c : Char) : Bool :=
  if c = '#' || c = '~' then isFirst
  else if c = '\x7b' || c = '\x7d' then isOnly
  else " !\"$&()*;<=>?[\\^\x60|'".toList.contains c || c = '\t' || c = '\n'

/-- Whether a character needs quotes. -/
def needsQuotes (escapes isFirst isOnly : Bool) (c : Char) : Bool :=
  isSpecial isFirst isOnly c || (if escapes then !isShown c else (letter? c).isSome)

/-- Whether a character is the same in double quotes and in single ones. -/
def isSafe (isFirst : Bool) (c : Char) : Bool :=
  if c = '#' || c = '~' then isFirst
  else c = '\'' || c = ' ' || (isShown c && !"!\"$&()*;<=>?[\\^\x60|\x7b\x7d".toList.contains c)

/-- The inside of single quotes and their end, with what is not shown by its number in quotes of their
own. -/
def inQuotes (escapes : Bool) : (inNumbers : Bool) → List Char → String
  | _, [] => "'"
  | inNumbers, c :: cs =>
    if escapes && !isShown c then
      (if inNumbers then "" else "'$'") ++ escaped c ++ inQuotes escapes true cs
    else
      (if inNumbers then "''" else "") ++
        (if c = '\'' then "'\\''" else String.ofList [c]) ++ inQuotes escapes false cs

/-- A text in a style. -/
def apply (q : Quoting) (s : String) : String :=
  let cs := s.toList
  match q with
  | literal     => s
  | double always =>
    let inside := withBackslashes ['"', '\\'] s
    if !always && withBackslashes ['"'] s = s && s != "" then s else "\"" ++ inside ++ "\""
  | bare others => withBackslashes ('\\' :: others) s
  | single      => "'" ++ withBackslashes ['\'', '\\'] s ++ "'"
  | shell always escapes =>
    let isOnly : Bool := cs.length = 1
    let needs := cs.isEmpty || (cs.zipIdx).any fun (c, n) => needsQuotes escapes (n = 0) isOnly c
    if !always && !needs then s
    else if cs.contains '\'' && (cs.zipIdx).all fun (c, n) => isSafe (n = 0) c then
      "\"" ++ s ++ "\""
    else
      let afterNumber := escapes && cs.contains '\'' && cs.getLast?.any (!isShown ·)
      "'" ++ inQuotes escapes afterNumber cs

/-- The styles by their names. -/
def named : List (String × Quoting) :=
  [("literal", literal), ("shell", shell false false), ("shell-always", shell true false),
   ("shell-escape", shell false true), ("shell-escape-always", shell true true), ("c", double true),
   ("c-maybe", double false), ("escape", bare []), ("locale", single), ("clocale", double true)]

end Quoting

end BoardConsole.Shell
