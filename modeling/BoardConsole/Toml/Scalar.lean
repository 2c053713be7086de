import BoardConsole.Text.Number
import BoardConsole.Toml.Value

/-!
# Toml — Numbers, dates and truth values

Readers for the values that are neither texts nor collections. Each answers the value and what
follows it, or nothing where the characters do not begin with such a value. Digits may be grouped by
single underscores; whole numbers fit 64 bits with their sign; the parts of dates and times are in
their ranges, with the length of each month.
-/

namespace BoardConsole.Toml.Scalar
open Text

/-! ### Digits -/

/-- The digits that the characters begin with, grouped by single underscores, without these. -/
def groupedRest (isDigit : Char → Bool) : List Char → List Char × List Char
  | '_' :: c :: cs =>
    if isDigit c then
      let (digits, rest) := groupedRest isDigit cs
      (c :: digits, rest)
    else ([], '_' :: c :: cs)
  | c :: cs =>
    if isDigit c then
      let (digits, rest) := groupedRest isDigit cs
      (c :: digits, rest)
    else ([], c :: cs)
  | [] => ([], [])

/-- At least one digit, grouped by single underscores. -/
def grouped (isDigit : Char → Bool) : List Char → Option (List Char × List Char)
  | c :: cs =>
    if isDigit c then
      let (digits, rest) := groupedRest isDigit cs
      some (c :: digits, rest)
    else none
  | [] => none

/-- Exactly `width` digits. -/
def fixed (width : Nat) (cs : List Char) : Option (Nat × List Char) :=
  let digits := cs.take width
  if digits.length = width ∧ digits.all Char.isDigit then some (ofDigits 10 digits, cs.drop width)
  else none

/-- Exactly `width` digits of a number in a range. -/
def ranged (width low high : Nat) (cs : List Char) : Option (Nat × List Char) :=
  match fixed width cs with
  | some (n, rest) => if low ≤ n ∧ n ≤ high then some (n, rest) else none
  | none           => none

/-- One character. -/
def mark (c : Char) : List Char → Option (List Char)
  | d :: cs => if c = d then some cs else none
  | []      => none

/-- The sign that the characters begin with, if any. -/
def sign : List Char → Bool × List Char
  | '-' :: cs => (true, cs)
  | '+' :: cs => (false, cs)
  | cs        => (false, cs)

/-! ### Whole numbers -/

/-- Decimal digits without a leading zero, unless zero is all. -/
def decimal : List Char → Option (List Char × List Char)
  | '0' :: cs => some (['0'], cs)
  | cs        => grouped Char.isDigit cs

/-- A number that fits 64 bits with its sign. -/
def int64? (n : Int) : Option Value :=
  if -(Nat.pow 2 63) ≤ n ∧ n < Nat.pow 2 63 then some (.integer n) else none

/-- Digits of a radix other than ten. -/
def inRadix (radix : Nat) (cs : List Char) : Option (Value × List Char) := do
  let (digits, rest) ← grouped (isDigit radix) cs
  let v ← int64? (ofDigits radix digits)
  return (v, rest)

/-- A whole number. -/
def integer : List Char → Option (Value × List Char)
  | '0' :: 'x' :: cs => inRadix 16 cs
  | '0' :: 'o' :: cs => inRadix 8 cs
  | '0' :: 'b' :: cs => inRadix 2 cs
  | cs => do
    let (isNegative, digits) := sign cs
    let (digits, rest) ← decimal digits
    let n : Int := ofDigits 10 digits
    let v ← int64? (if isNegative then -n else n)
    return (v, rest)

/-! ### Numbers with a fraction or an exponent -/

/-- The digits after a point. -/
def fraction (cs : List Char) : Option (List Char × List Char) := do
  grouped Char.isDigit (← mark '.' cs)

/-- An exponent. -/
def exponent (cs : List Char) : Option (Int × List Char) := do
  let rest ← (mark 'e' cs).or (mark 'E' cs)
  let (isNegative, rest) := sign rest
  let (digits, rest) ← grouped Char.isDigit rest
  let n : Int := ofDigits 10 digits
  return (if isNegative then -n else n, rest)

/-- From here on a number is nearer to the double after the largest one, and is read as infinite. -/
def doubleBound : Nat := Nat.pow 2 1024 - Nat.pow 2 970

/-- Whether `digits · 10 ^ exponent` is read as infinite. The number of digits decides where it can,
so that no huge power is built. -/
def isInfinite (digits : List Char) (exponent : Int) : Bool :=
  let significant := digits.dropWhile (· == '0')
  let magnitude := (significant.length : Int) + exponent
  if significant.isEmpty ∨ magnitude < 300 then false
  else if 400 < magnitude then true
  else
    let n := ofDigits 10 significant
    if 0 ≤ exponent then doubleBound ≤ n * Nat.pow 10 exponent.toNat
    else doubleBound * Nat.pow 10 exponent.natAbs ≤ n

/-- The characters of `cs` up to `rest`. -/
def consumed (cs rest : List Char) : String := String.ofList (cs.take (cs.length - rest.length))

/-- The words for infinity and for no number. -/
def special? : List Char → Option (List Char)
  | 'i' :: 'n' :: 'f' :: cs => some cs
  | 'n' :: 'a' :: 'n' :: cs => some cs
  | _                       => none

/-- A number with a fraction, an exponent, or both. One too large for a double is refused, unless it
is negative. -/
def float (cs : List Char) : Option (Value × List Char) :=
  let (isNegative, unsigned) := sign cs
  match special? unsigned with
  | some rest => some (.float (consumed cs rest), rest)
  | none => do
    let (whole, rest) ← decimal unsigned
    let (digits, power, rest) ←
      match fraction rest with
      | some (part, rest) =>
        match exponent rest with
        | some (e, rest) => some (whole ++ part, e - part.length, rest)
        | none           => some (whole ++ part, -(part.length : Int), rest)
      | none => (exponent rest).map fun (e, rest) => (whole, e, rest)
    if !isNegative && isInfinite digits power then none
    else return (.float (consumed cs rest), rest)

/-! ### Dates and times -/

/-- The days of a month. -/
def daysIn (year month : Nat) : Nat :=
  if month = 2 then
    if year % 4 = 0 ∧ (year % 100 ≠ 0 ∨ year % 400 = 0) then 29 else 28
  else if month = 4 ∨ month = 6 ∨ month = 9 ∨ month = 11 then 30
  else 31

/-- A date. -/
def date (cs : List Char) : Option (List Char) := do
  let (year, cs) ← fixed 4 cs
  let cs ← mark '-' cs
  let (month, cs) ← ranged 2 1 12 cs
  let cs ← mark '-' cs
  let (_, cs) ← ranged 2 1 (daysIn year month) cs
  return cs

/-- A part of a second, if there is one. -/
def secondPart (cs : List Char) : List Char :=
  match mark '.' cs with
  | some rest => if (rest.head?.any Char.isDigit) then rest.dropWhile Char.isDigit else cs
  | none      => cs

/-- A time of day. -/
def time (cs : List Char) : Option (List Char) := do
  let (_, cs) ← ranged 2 0 23 cs
  let cs ← mark ':' cs
  let (_, cs) ← ranged 2 0 59 cs
  let cs ← mark ':' cs
  let (_, cs) ← ranged 2 0 60 cs
  return secondPart cs

/-- The offset of a time zone. -/
def zone (cs : List Char) : Option (List Char) :=
  match (mark 'Z' cs).or (mark 'z' cs) with
  | some rest => some rest
  | none => do
    let cs ← (mark '+' cs).or (mark '-' cs)
    let (_, cs) ← ranged 2 0 23 cs
    let cs ← mark ':' cs
    let (_, cs) ← ranged 2 0 59 cs
    return cs

/-- A time after a date, if there is one. -/
def timeAfterDate (cs : List Char) : List Char :=
  match ((mark 'T' cs).or (mark 't' cs)).or (mark ' ' cs) with
  | none => cs
  | some rest =>
    match time rest with
    | none      => cs
    | some rest => (zone rest).getD rest

/-- A date, a time, or both. -/
def dateTime (cs : List Char) : Option (Value × List Char) :=
  match date cs with
  | some rest =>
    let rest := timeAfterDate rest
    some (.dateTime (consumed cs rest), rest)
  | none => (time cs).map fun rest => (.dateTime (consumed cs rest), rest)

/-- A truth value. -/
def boolean : List Char → Option (Value × List Char)
  | 't' :: 'r' :: 'u' :: 'e' :: cs        => some (.boolean true, cs)
  | 'f' :: 'a' :: 'l' :: 's' :: 'e' :: cs => some (.boolean false, cs)
  | _                                     => none

/-- A value that is neither a text nor a collection. -/
def read (cs : List Char) : Option (Value × List Char) :=
  (((dateTime cs).or (float cs)).or (integer cs)).or (boolean cs)

end BoardConsole.Toml.Scalar
