/-!
# Script — Tokens

The tokens of a console line. `shown` is how an error message names a token.
-/

namespace BoardConsole

/-- A token of a console line. -/
inductive Token where
  /-- An integer literal. -/
  | num (n : Int32)
  /-- A text literal, its escapes resolved. -/
  | str (text : String)
  /-- A name or a keyword. -/
  | ident (name : String)
  /-- The trimmed text between two matching braces. -/
  | body (text : String)
  | lparen
  | rparen
  | comma
  | semi
  | bang
  | minus
  | star
deriving DecidableEq, Repr

namespace Token

/-- A token as an error message names it. -/
def shown : Token → String
  | num n     => toString n.toInt
  | str text  => "\"" ++ text ++ "\""
  | ident n   => n
  | body _    => "\x7b...\x7d"
  | lparen    => "'('"
  | rparen    => "')'"
  | comma     => "','"
  | semi      => "';'"
  | bang      => "'!'"
  | minus     => "'-'"
  | star      => "'*'"

/-- The character of a mark. -/
def ofMark? (c : Char) : Option Token :=
  if c = '(' then some lparen
  else if c = ')' then some rparen
  else if c = ',' then some comma
  else if c = ';' then some semi
  else if c = '!' then some bang
  else if c = '-' then some minus
  else if c = '*' then some star
  else none

end Token

end BoardConsole
