import BoardConsole.Toml.Quoted
import BoardConsole.Toml.Scalar

/-!
# Toml — Documents

`read` takes the text of a document to its table. A document is a sequence of lines: a header opens a
table, and every other line gives a value to a key of the table opened last. Collections may hold one
another to a depth, and paths of dotted keys have a length, below `limit`.
-/

namespace BoardConsole.Toml

/-- The depth of collections and the length of paths stay below this. -/
def limit : Nat := 80

namespace Document
open Quoted (isSpace isControl lineEnd?)

/-- What follows any blanks inside a line. -/
def skipSpaces (cs : List Char) : List Char := cs.dropWhile isSpace

/-- What follows a comment, if the characters begin with one. -/
def skipComment : List Char → List Char
  | '#' :: cs => cs.dropWhile fun c => !isControl c
  | cs        => cs

/-- What follows the end of a line, before which blanks and a comment may stand. -/
def endLine (cs : List Char) : Option (List Char) :=
  match skipComment (skipSpaces cs) with
  | [] => some []
  | cs => lineEnd? cs

/-- What follows any blanks, comments and line ends. -/
def skipLines : (fuel : Nat) → List Char → List Char
  | 0, cs => cs
  | fuel + 1, cs =>
    let rest := skipSpaces cs
    match lineEnd? (skipComment rest) with
    | some after => skipLines fuel after
    | none       => rest

/-! ### Keys -/

/-- A character of a key without quotes. -/
def isKeyChar (c : Char) : Bool := c.isAlphanum || c == '-' || c == '_'

/-- One key, with or without quotes, and what follows it. -/
def readKey : List Char → Option (String × List Char)
  | '"' :: cs  => (Quoted.readLine '"' cs).map fun (key, rest) => (String.ofList key, rest)
  | '\'' :: cs => (Quoted.readLine '\'' cs).map fun (key, rest) => (String.ofList key, rest)
  | cs =>
    let key := cs.takeWhile isKeyChar
    if key.isEmpty then none else some (String.ofList key, cs.dropWhile isKeyChar)

/-- Keys joined by dots, blanks around each, and what follows them. -/
def readKeys : (fuel : Nat) → List Char → Option (List String × List Char)
  | 0, _ => none
  | fuel + 1, cs =>
    match readKey (skipSpaces cs) with
    | none => none
    | some (key, rest) =>
      match skipSpaces rest with
      | '.' :: rest => (readKeys fuel rest).map fun (keys, rest) => (key :: keys, rest)
      | rest        => some ([key], rest)

/-- A path of keys and the key at its end. -/
def readPath (cs : List Char) : Option ((List String × String) × List Char) :=
  match readKeys (cs.length + 1) cs with
  | none => none
  | some (keys, rest) =>
    match keys.getLast? with
    | none      => none
    | some last => if keys.length < limit then some ((keys.dropLast, last), rest) else none

/-! ### Values -/

/-- A value and what follows it. -/
abbrev Reader := List Char → Option (Value × List Char)

/-- The rest of an array. -/
def readItems (value : Reader) : (fuel : Nat) → List Char → Option (List Value × List Char)
  | 0, _ => none
  | fuel + 1, cs =>
    match skipLines (cs.length + 1) cs with
    | ']' :: rest => some ([], rest)
    | cs =>
      match value cs with
      | none => none
      | some (v, rest) =>
        match skipLines (rest.length + 1) rest with
        | ',' :: rest => (readItems value fuel rest).map fun (vs, rest) => (v :: vs, rest)
        | ']' :: rest => some ([v], rest)
        | _           => none

/-- A path, an equals sign and a value, and what follows them. -/
def readAssignment (value : Reader) (cs : List Char) :
    Option ((List String × String) × Value × List Char) := do
  let (path, rest) ← readPath cs
  let rest ← Scalar.mark '=' rest
  let (v, rest) ← value (skipSpaces rest)
  return (path, v, rest)

/-- The rest of a table in braces that is not empty. -/
def readMembers (value : Reader) : (fuel : Nat) → Entries → List Char → Option (Entries × List Char)
  | 0, _, _ => none
  | fuel + 1, es, cs =>
    match readAssignment value cs with
    | none => none
    | some ((path, key), v, rest) =>
      match es.assign path key v .closed with
      | none => none
      | some es =>
        match skipSpaces rest with
        | ',' :: rest => readMembers value fuel es rest
        | '}' :: rest => some (es, rest)
        | _           => none

/-- A value, with collections inside one another up to `levels`. -/
def readValue : (levels : Nat) → Reader
  | _, '"' :: cs  => (Quoted.read '"' cs).map fun (text, rest) => (.string (String.ofList text), rest)
  | _, '\'' :: cs => (Quoted.read '\'' cs).map fun (text, rest) => (.string (String.ofList text), rest)
  | 0, '[' :: _ => none
  | levels + 1, '[' :: cs =>
    (readItems (readValue levels) (cs.length + 1) cs).map fun (vs, rest) => (.array vs, rest)
  | 0, '{' :: _ => none
  | levels + 1, '{' :: cs =>
    match skipSpaces cs with
    | '}' :: rest => some (.table .closed [], rest)
    | cs =>
      (readMembers (readValue levels) (cs.length + 1) [] cs).map fun (es, rest) =>
        (.table .closed es, rest)
  | _, cs => Scalar.read cs

/-! ### Lines -/

/-- A document as far as it has been read: its table, and the header opened last. -/
structure State where
  entries : Entries
  header  : List String

/-- The rest of a header, after its opening brackets. -/
def readHeader (closing : List Char) (cs : List Char) :
    Option ((List String × String) × List Char) := do
  let (path, rest) ← readPath cs
  if rest.take closing.length = closing then
    let rest ← endLine (rest.drop closing.length)
    return (path, rest)
  else none

/-- Reads one line that is not blank. -/
def readLine (st : State) : List Char → Option (State × List Char)
  | '[' :: '[' :: cs => do
    let ((path, key), rest) ← readHeader [']', ']'] cs
    let entries ← st.entries.appendTable path key
    return (⟨entries, path ++ [key]⟩, rest)
  | '[' :: cs => do
    let ((path, key), rest) ← readHeader [']'] cs
    let entries ← st.entries.openTable path key
    return (⟨entries, path ++ [key]⟩, rest)
  | cs => do
    let ((path, key), v, rest) ← readAssignment (readValue (limit - 1)) cs
    let rest ← endLine rest
    let entries ← st.entries.assignUnder st.header path key v
    return ({ st with entries }, rest)

/-- Reads lines up to the end. `fuel` bounds their number. -/
def readLines : (fuel : Nat) → State → List Char → Option Entries
  | 0, _, _ => none
  | fuel + 1, st, cs =>
    match skipSpaces cs with
    | [] => some st.entries
    | '#' :: cs => (endLine ('#' :: cs)).bind (readLines fuel st)
    | cs =>
      match lineEnd? cs with
      | some rest => readLines fuel st rest
      | none      => (readLine st cs).bind fun (st, rest) => readLines fuel st rest

/-- The mark that may stand in front of a document. -/
def byteOrderMark : Char := '\ufeff'

/-- The table of a document; nothing where its text is not well-formed. -/
def read (text : String) : Option Entries :=
  let cs := text.toList
  let cs := if cs.head? = some byteOrderMark then cs.tail else cs
  readLines (cs.length + 1) ⟨[], []⟩ cs

end Document

end BoardConsole.Toml
