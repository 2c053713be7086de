import BoardConsole.Text.Utf8

/-!
# Shell — Bytes as characters

A shell works on bytes: a pattern's `?` is one byte, and a length counts bytes. Inside the shell a
text is a string whose characters stand for one byte each; these functions lead in and out.
-/

namespace BoardConsole.Shell

/-- Bytes as a text of the shell. -/
def ofBytes (bytes : List UInt8) : String :=
  String.ofList (bytes.map fun b => Char.ofNat b.toNat)

/-- The bytes of a text of the shell. -/
def toBytes (s : String) : List UInt8 := s.toList.map fun c => UInt8.ofNat c.toNat

/-- A text of the world as one of the shell. -/
def ofWorld (s : String) : String := ofBytes (Text.Utf8.encode s)

/-- A text of the shell as one of the world. -/
def toWorld (s : String) : String := Text.Utf8.decode (toBytes s)

/-- The part of a text up to the last separator, and what follows it. -/
def splitLast (separator : Char) (cs : List Char) : Option (List Char × List Char) :=
  let last := (cs.reverse.takeWhile (· != separator)).reverse
  if last.length = cs.length then none else some (cs.take (cs.length - last.length - 1), last)

/-- A character of a name, though not its first. -/
def isNameChar (c : Char) : Bool := c.isAlphanum || c == '_'

/-- The first character of a name. -/
def isNameStart (c : Char) : Bool := c.isAlpha || c == '_'

/-- A name of a variable or a function. -/
def isName (s : String) : Bool :=
  match s.toList with
  | []      => false
  | c :: cs => isNameStart c && cs.all isNameChar

/-- A text as often as a number says. -/
def repeated (n : Nat) (c : Char) : String := String.ofList (List.replicate n c)

/-- The lines of a text without their ends. A last line without an end counts. -/
def linesOf (s : String) : List String :=
  match (s.splitOn "\n").reverse with
  | "" :: rest => rest.reverse
  | parts      => parts.reverse

/-- A text with a line end after each of its lines. -/
def unlines (lines : List String) : String := String.join (lines.map (· ++ "\n"))

/-- Whether a text occurs in another one. -/
def occursIn (needle hay : List Char) : Bool :=
  match hay with
  | []     => needle.isEmpty
  | _ :: r => needle.isPrefixOf hay || occursIn needle r

end BoardConsole.Shell
