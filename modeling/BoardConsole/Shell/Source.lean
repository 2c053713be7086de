import BoardConsole.Shell.Bytes
import BoardConsole.Shell.Tree

/-!
# Shell — The text being read

A script is read one command at a time, since a command may change how the rest is read. The source
keeps what is left of the text, the token that was read too far, the aliases that words stand for,
and the documents that begin after the next end of a line.
-/

namespace BoardConsole.Shell

/-- Why a text follows no grammar. -/
structure Misreading where
  line    : Nat
  message : String
deriving DecidableEq, Repr

/-- A token. -/
inductive Token where
  | word (w : Word)
  /-- One of `;`, `;;`, `&`, `&&`, `|`, `||`, `(` and `)`. -/
  | op (mark : String)
  /-- A redirection mark and the descriptor in front of it. -/
  | redirect (descriptor : Option Nat) (mark : String)
  | newline
  | finish
  /-- A word that begins or continues a compound command. -/
  | keyword (name : String)

/-- A document whose text is still to come. -/
structure Awaited where
  number    : Nat
  delimiter : String
  stripTabs : Bool
  expands   : Bool

/-- What is left of a script. -/
structure Source where
  rest      : List Char
  line      : Nat
  /-- No loop over the text takes more steps. -/
  budget    : Nat
  pushed    : Option Token
  aliases   : List (String × String)
  /-- The aliases being read, each with how much of the text is left after it. -/
  active    : List (String × Nat)
  /-- How much of the text is left after aliases that end in a blank. -/
  blankEnds : List Nat
  documents : Array Word
  awaited   : List Awaited

/-- A step of reading. -/
abbrev Reader := EStateM Misreading Source

/-- The start of a script. -/
def Source.ofText (text : String) (aliases : List (String × String)) (documents : Array Word) :
    Source where
  rest      := text.toList
  line      := 1
  budget    := text.length + 2
  pushed    := none
  aliases   := aliases
  active    := []
  blankEnds := []
  documents := documents
  awaited   := []

namespace Reader

/-- Gives up. -/
def misread {α : Type} (message : String) : Reader α := do
  throw ⟨(← get).line, message⟩

/-- The next character, if there is one, left in its place. -/
def peek : Reader (Option Char) := do
  return (← get).rest.head?

/-- Takes the next character. -/
def next : Reader (Option Char) :=
  modifyGet fun s =>
    match s.rest with
    | []      => (none, s)
    | c :: cs => (some c, { s with rest := cs, line := if c = '\n' then s.line + 1 else s.line })

/-- Passes over the next character. -/
def skip : Reader Unit := do
  let _ ← next

/-- Passes over ends of lines with a backslash in front. -/
def skipJoins : Reader Unit :=
  modify fun s =>
    let rec go : List Char → List Char × Nat
      | '\\' :: '\n' :: cs => let (rest, n) := go cs; (rest, n + 1)
      | cs                 => (cs, 0)
    let (rest, joins) := go s.rest
    { s with rest, line := s.line + joins }

/-- The next character after any joined lines, left in its place. -/
def peekJoined : Reader (Option Char) := do
  skipJoins
  peek

/-- Takes the next character if it is the given one. -/
def takeIf (c : Char) : Reader Bool := do
  if (← peekJoined) = some c then
    skip
    return true
  else return false

/-- Takes characters of a class. -/
def takeWhile (p : Char → Bool) : Reader String := do
  let rec go : (fuel : Nat) → List Char → Reader (List Char)
    | 0, acc => return acc
    | fuel + 1, acc => do
      match ← peekJoined with
      | some c => if p c then skip; go fuel (c :: acc) else return acc
      | none   => return acc
  return String.ofList (← go (← get).budget []).reverse

/-- Takes characters up to one, and that one too; nothing where it is missing. -/
def takeThrough (c : Char) : Reader (Option (List Char)) := do
  let s ← get
  let text := s.rest.takeWhile (· != c)
  match s.rest.drop text.length with
  | []     => set { s with rest := [] }; return none
  | _ :: r =>
    set { s with rest := r, line := s.line + text.count '\n' + (if c = '\n' then 1 else 0) }
    return some text

end Reader

end BoardConsole.Shell
