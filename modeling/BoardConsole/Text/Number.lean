/-!
# Text — Numbers in words of digits

Reading natural numbers in a radix, and the 32-bit signed numbers of the script language:
`int32?` reads an optional sign and at least one decimal digit, and refuses what does not fit.
-/

namespace BoardConsole.Text

/-- The value of a digit, with the letters of either case standing for 10 to 35. -/
def digitValue (c : Char) : Nat :=
  if '0' ≤ c ∧ c ≤ '9' then c.toNat - '0'.toNat
  else if 'a' ≤ c ∧ c ≤ 'z' then c.toNat - 'a'.toNat + 10
  else if 'A' ≤ c ∧ c ≤ 'Z' then c.toNat - 'A'.toNat + 10
  else 36

/-- The digits of a radix. -/
def isDigit (radix : Nat) (c : Char) : Bool :=
  digitValue c < radix

/-- The value of a run of digits, most significant first. -/
def ofDigits (radix : Nat) (cs : List Char) : Nat :=
  cs.foldl (fun n c => n * radix + digitValue c) 0

/-- The number written by at least one digit of the radix and nothing else. -/
def nat? (radix : Nat) (cs : List Char) : Option Nat :=
  if !cs.isEmpty && cs.all (isDigit radix) then some (ofDigits radix cs) else none

/-- An optional sign followed by at least one decimal digit. -/
def int? : List Char → Option Int
  | '-' :: cs => (nat? 10 cs).map fun n => -(n : Int)
  | '+' :: cs => (nat? 10 cs).map fun n => (n : Int)
  | cs        => (nat? 10 cs).map fun n => (n : Int)

/-- A signed decimal number that fits 32 bits. -/
def int32? (cs : List Char) : Option Int32 :=
  match int? cs with
  | some n => if -2147483648 ≤ n ∧ n ≤ 2147483647 then some (Int32.ofInt n) else none
  | none   => none

/-- The digit characters of a number in a radix of at most 16, at least `width` of them. -/
def paddedDigits (radix width n : Nat) : List Char :=
  let digits := Nat.toDigits radix n
  List.replicate (width - digits.length) '0' ++ digits

end BoardConsole.Text
