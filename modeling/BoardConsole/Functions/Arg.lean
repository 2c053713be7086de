import BoardConsole.Text.Blank
import BoardConsole.Text.Number

/-!
# Functions — Values and arguments

A script's values are numbers of 32 bits and texts. Each can be read as the other: a text as the
decimal number it holds between blanks, or zero; a number as its decimal digits.
-/

namespace BoardConsole

/-- A value of the script language. -/
inductive Arg where
  | num (n : Int32)
  | str (text : String)
deriving DecidableEq, Repr

namespace Arg

/-- The value as a number. -/
def toNum : Arg → Int32
  | num n    => n
  | str text => (Text.int32? (Text.trim text.toList)).getD 0

/-- The value as a text. -/
def toText : Arg → String
  | num n    => toString n.toInt
  | str text => text

/-- The number of argument `n`, counted from one. -/
def num? (args : List Arg) (n : Nat) : Option Int32 :=
  if n = 0 then none else args[n - 1]?.map toNum

/-- The text of argument `n`, counted from one. -/
def text? (args : List Arg) (n : Nat) : Option String :=
  if n = 0 then none else args[n - 1]?.map toText

/-- The number of argument `n`, zero where it is missing. -/
def numOrZero (args : List Arg) (n : Nat) : Int32 := (num? args n).getD 0

end Arg

end BoardConsole
