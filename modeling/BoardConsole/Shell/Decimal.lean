/-!
# Shell — Decimal forms of fractions

Writes a fraction exactly rounded to some number of digits: positional, with an exponent, or in the
shorter of the two forms. A value is the quotient of two numbers; rounding is to the nearest, and a
tie goes to the even neighbour.
-/

namespace BoardConsole.Shell.Decimal

/-- A fraction without its sign: the quotient of two numbers, the second of them not zero. -/
structure Ratio where
  above : Nat
  below : Nat

/-- The fraction of a number without its sign. -/
def Ratio.ofRat (x : Rat) : Ratio := ⟨x.num.natAbs, x.den⟩

/-- The fraction of a finite double. -/
def Ratio.ofFloat (x : Float) : Ratio :=
  let bits := x.toBits.toNat
  let exponent : Nat := bits / Nat.pow 2 52 % Nat.pow 2 11
  let fraction : Nat := bits % Nat.pow 2 52
  let mantissa := if exponent = 0 then fraction else fraction + Nat.pow 2 52
  let exponent := max exponent 1
  ⟨mantissa * Nat.pow 2 (exponent - 1075), Nat.pow 2 (1075 - exponent)⟩

/-- Whether a double has its sign set. -/
def isNegative (x : Float) : Bool := x.toBits.toNat / Nat.pow 2 63 = 1

/-- The quotient of two numbers, rounded to the nearest; a tie goes to the even neighbour. -/
def roundDiv (a b : Nat) : Nat :=
  let q := a / b
  let r := a % b
  if 2 * r < b then q else if b < 2 * r then q + 1 else q + q % 2

/-- A fraction times a power of ten, rounded. -/
def Ratio.scaled (x : Ratio) (tens : Int) : Nat :=
  roundDiv (x.above * Nat.pow 10 tens.toNat) (x.below * Nat.pow 10 (-tens).toNat)

/-- Whether a fraction is at least a power of ten. -/
def Ratio.reaches (x : Ratio) (tens : Int) : Bool :=
  Nat.pow 10 tens.toNat * x.below ≤ x.above * Nat.pow 10 (-tens).toNat

/-- The greatest power of ten that a fraction reaches, looked for downwards. The logarithms of its
two parts say where to begin. -/
def Ratio.magnitude (x : Ratio) : Int :=
  if x.above = 0 then 0
  else
    let twos : Int := (Nat.log2 x.above : Int) + 1 - Nat.log2 x.below
    let rec down : Nat → Int → Int
      | 0, tens     => tens
      | n + 1, tens => if x.reaches tens then tens else down n (tens - 1)
    down 5 (twos * 30103 / 100000 + 1)

/-- The digits of a number, at least some many. -/
def digitsOf (n least : Nat) : List Char :=
  let digits := (toString n).toList
  List.replicate (least - digits.length) '0' ++ digits

/-- Digits with a point before the last some of them. -/
def withPoint (digits : List Char) (places : Nat) (keepPoint : Bool) : String :=
  let whole := digits.take (digits.length - places)
  let rest := digits.drop (digits.length - places)
  String.ofList (if places = 0 && !keepPoint then whole else whole ++ '.' :: rest)

/-- The positional form with some places. -/
def positional (x : Ratio) (places : Nat) (keepPoint : Bool) : String :=
  withPoint (digitsOf (x.scaled places) (places + 1)) places keepPoint

/-- The digits of a fraction, one before the point and some after it, and the power of ten. -/
def leading (x : Ratio) (places : Nat) : Nat × Int :=
  let tens := x.magnitude
  let n := x.scaled (places - tens)
  if n = Nat.pow 10 (places + 1) then (Nat.pow 10 places, tens + 1) else (n, tens)

/-- The text of a power of ten: a sign and two digits at least. -/
def exponentText (tens : Int) : String :=
  (if tens < 0 then "-" else "+") ++ String.ofList (digitsOf tens.natAbs 2)

/-- The form with an exponent. -/
def exponential (x : Ratio) (places : Nat) (keepPoint : Bool) : String :=
  let (n, tens) := leading x places
  withPoint (digitsOf n (places + 1)) places keepPoint ++ "e" ++ exponentText tens

/-- A number without the zeros at its end. -/
def withoutZeros (s : String) : String :=
  let (number, exponent) :=
    let cs := s.toList
    let number := cs.takeWhile (· != 'e')
    (number, cs.drop number.length)
  if number.contains '.' then
    let shorter := (number.reverse.dropWhile (· = '0')).dropWhile (· = '.')
    String.ofList (shorter.reverse ++ exponent)
  else s

/-- The shorter form with some digits in all. -/
def general (x : Ratio) (digits : Nat) (keepZeros : Bool) : String :=
  let digits := max digits 1
  let (_, tens) := leading x (digits - 1)
  let text :=
    if -4 ≤ tens && tens < digits then positional x (digits - 1 - tens).toNat keepZeros
    else exponential x (digits - 1) keepZeros
  if keepZeros then text else withoutZeros text

end BoardConsole.Shell.Decimal
