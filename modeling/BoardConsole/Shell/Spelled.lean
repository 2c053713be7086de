import BoardConsole.Shell.Arithmetic
import BoardConsole.Shell.Decimal

/-!
# Shell — Fractions as texts spell them

A fraction is spelled in decimal digits with a power of ten, in hexadecimal digits with a power of
two, or in a word. What is read is exact; the number that is meant by it, a double or one with a
longer mantissa, is the nearest to it.
-/

namespace BoardConsole.Shell

/-- A hexadecimal digit. -/
def isHexDigit (c : Char) : Bool := c.isDigit || ('a' ≤ c.toLower && c.toLower ≤ 'f')

/-- The sign of a text and what follows it. -/
def takeSign : List Char → Bool × List Char
  | '-' :: r => (true, r)
  | '+' :: r => (false, r)
  | r        => (false, r)

/-- A fraction without its sign, as it is spelled. -/
inductive Spelled where
  | decimal (mantissa : Nat) (tens : Int)
  | binary (mantissa : Nat) (twos : Int)
  | infinite
  | undefined

namespace Spelled

/-- The exponent that begins with a letter, and what follows it; zero where there is none. -/
def exponentOf (letter : Char) (cs : List Char) : Int × List Char :=
  match cs with
  | e :: r =>
    let (negative, r) := takeSign r
    let digits := r.takeWhile Char.isDigit
    if e.toLower = letter && !digits.isEmpty then
      let n : Int := min (Arithmetic.valueOf 10 digits) 100000
      (if negative then -n else n, r.drop digits.length)
    else (0, cs)
  | [] => (0, [])

/-- The digits in front of a point and behind it, and what follows them; nothing without digits. -/
def digits? (isDigit : Char → Bool) (cs : List Char) : Option (List Char × List Char × List Char) :=
  let whole := cs.takeWhile isDigit
  let rest := cs.drop whole.length
  match rest with
  | '.' :: r =>
    let places := r.takeWhile isDigit
    if whole.isEmpty && places.isEmpty then none else some (whole, places, r.drop places.length)
  | r => if whole.isEmpty then none else some (whole, [], r)

/-- The fraction in hexadecimal digits that a text begins with, and what follows it. -/
def readBinary? : List Char → Option (Spelled × List Char)
  | '0' :: x :: more =>
    if x.toLower != 'x' then none
    else
      (digits? isHexDigit more).map fun (whole, places, rest) =>
        let (twos, rest) := exponentOf 'p' rest
        (.binary (Arithmetic.valueOf 16 (whole ++ places)) (twos - 4 * places.length), rest)
  | _ => none

/-- The fraction in decimal digits that a text begins with, and what follows it. -/
def readDecimal? (cs : List Char) : Option (Spelled × List Char) :=
  (digits? Char.isDigit cs).map fun (whole, places, rest) =>
    let (tens, rest) := exponentOf 'e' rest
    (.decimal (Arithmetic.valueOf 10 (whole ++ places)) (tens - places.length), rest)

/-- The word for a number that a text begins with, and what follows it. -/
def readWord? (cs : List Char) : Option (Spelled × List Char) :=
  let begins (word : String) : Bool := word.toList.isPrefixOf (cs.map Char.toLower)
  if begins "infinity" then some (.infinite, cs.drop 8)
  else if begins "inf" then some (.infinite, cs.drop 3)
  else if begins "nan" then some (.undefined, cs.drop 3)
  else none

/-- The fraction that a text begins with, and what follows it. -/
def read? (cs : List Char) : Option (Spelled × List Char) :=
  ((readBinary? cs).or (readDecimal? cs)).or (readWord? (cs.take 8) |>.map fun (s, rest) =>
    (s, rest ++ cs.drop 8))

/-- The double that is meant. -/
def toFloat : Spelled → Float
  | decimal m tens =>
    if m = 0 then 0.0
    else if tens < 0 then Float.ofScientific m true tens.natAbs
    else if 400 < tens then 1.0 / 0.0
    else Float.ofScientific m false tens.natAbs
  | binary m twos => (Float.ofNat m).scaleB twos
  | infinite      => 1.0 / 0.0
  | undefined     => 0.0 / 0.0

/-- The exact value, if there is one. -/
def toRat? : Spelled → Option Rat
  | decimal m tens =>
    some (if tens < 0 then mkRat m (Nat.pow 10 tens.natAbs) else ((m * Nat.pow 10 tens.toNat : Nat) : Rat))
  | binary m twos =>
    some (if twos < 0 then mkRat m (Nat.pow 2 twos.natAbs) else ((m * Nat.pow 2 twos.toNat : Nat) : Rat))
  | infinite | undefined => none

end Spelled

/-- The number that is nearest to a number and has a mantissa of some bits, none of them below some power
of two. -/
def nearestAbove (bits : Nat) (least : Int) (x : Rat) : Rat :=
  let above := x.num.natAbs
  let below := x.den
  if above = 0 then 0
  else
    let twos : Int := (Nat.log2 above : Int) - Nat.log2 below
    let reaches : Bool := below * Nat.pow 2 twos.toNat ≤ above * Nat.pow 2 (-twos).toNat
    let exponent := max least ((if reaches then twos else twos - 1) - (bits - 1 : Nat))
    let mantissa : Int :=
      Decimal.roundDiv (above * Nat.pow 2 (-exponent).toNat) (below * Nat.pow 2 exponent.toNat)
    let value := if x.num < 0 then -mantissa else mantissa
    if exponent < 0 then mkRat value (Nat.pow 2 exponent.natAbs) else ((value * Nat.pow 2 exponent.toNat : Int) : Rat)

/-- The number with a mantissa of some bits that is nearest to a number. -/
def nearest (bits : Nat) (x : Rat) : Rat := nearestAbove bits (-16445) x

/-- The bits of the mantissa of a long fraction. -/
def longBits : Nat := 64

end BoardConsole.Shell
