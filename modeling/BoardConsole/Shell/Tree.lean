/-!
# Shell — Commands and words

What a command line of the shell is once it has been read. A word is a list of pieces that are
expanded when the word is used; a piece remembers whether it stood in quotes, since what is quoted
is neither split into fields nor read as a pattern. Words hold commands, and commands hold words.
-/

namespace BoardConsole.Shell

/-- What an expansion makes of a parameter. Those with a word come in two kinds: `orNull` counts a
parameter that is empty as one that is not set. -/
inductive Change where
  | keep
  | length
  | default (orNull : Bool)
  | assign (orNull : Bool)
  | fail (orNull : Bool)
  | replace (orNull : Bool)
  /-- Takes away the shortest or the longest match at the beginning. -/
  | trimStart (longest : Bool)
  /-- Takes away the shortest or the longest match at the end. -/
  | trimEnd (longest : Bool)
  /-- No change that there is. -/
  | unknown
deriving DecidableEq, Repr

/-- How a redirection opens what a descriptor is led to. -/
inductive Opening where
  | reading
  | writing
  /-- Writes over a file even where that is not allowed otherwise. -/
  | overwriting
  | appending
  | both
  /-- Makes the descriptor a copy of another one, or closes it. -/
  | copying
  /-- Reads a text that stands in the script, by its number. -/
  | document (number : Nat)
deriving DecidableEq, Repr

mutual

/-- A piece of a word. -/
inductive Piece where
  | char (c : Char) (quoted : Bool)
  /-- Marks a pair of quotes: a word with it is there even if it is empty. -/
  | quotes
  | parameter (name : String) (change : Change) (word : List Piece) (quoted : Bool)
  /-- What a command prints. -/
  | output (command : Command) (quoted : Bool)
  /-- The value of an expression. -/
  | sum (expression : List Piece) (quoted : Bool)

/-- A command. -/
inductive Command where
  /-- Does nothing and leaves the status as it is. -/
  | nothing
  | simple (line : Nat) (assignments : List (String × List Piece)) (words : List (List Piece))
      (redirections : List Redirection)
  | redirected (line : Nat) (command : Command) (redirections : List Redirection)
  | subshell (line : Nat) (command : Command) (redirections : List Redirection)
  | background (command : Command)
  | pipe (commands : List Command)
  | not (command : Command)
  | sequence (first second : Command)
  | and (first second : Command)
  | or (first second : Command)
  | choice (condition yes no : Command)
  /-- Repeats as long as the condition succeeds, or fails if `until` is set. -/
  | loop (untilTrue : Bool) (condition body : Command)
  | each (line : Nat) (name : String) (words : List (List Piece)) (body : Command)
  | case (line : Nat) (word : List Piece) (arms : List (List (List Piece) × Command))
  | define (name : String) (body : Command)

/-- A redirection of a descriptor. -/
inductive Redirection where
  | mk (descriptor : Nat) (opening : Opening) (target : List Piece)

end

/-- A word before expansion. -/
abbrev Word := List Piece

instance : Inhabited Command := ⟨.nothing⟩
instance : Inhabited Piece := ⟨.quotes⟩

/-- The character of a piece that is neither quoted nor expanded. -/
def Piece.plain? : Piece → Option Char
  | .char c false => some c
  | _             => none

/-- The text of a word without quotes and expansions. -/
def plain? (w : Word) : Option String := (w.mapM Piece.plain?).map String.ofList

/-- A piece that stands in quotes. -/
def Piece.isQuoted : Piece → Bool
  | .char _ quoted          => quoted
  | .quotes                 => true
  | .parameter _ _ _ quoted => quoted
  | .output _ quoted        => quoted
  | .sum _ quoted           => quoted

/-- A literal word. -/
def literal (s : String) (quoted : Bool) : Word := s.toList.map (.char · quoted)

end BoardConsole.Shell
