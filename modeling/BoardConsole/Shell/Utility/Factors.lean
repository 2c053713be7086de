import BoardConsole.Shell.Utility.Text

/-!
# Shell — Numbers in factors

`factor` prints the primes that a number is the product of. Small ones are found by division, others
as common divisors with the differences of a sequence that runs into a circle.
-/

namespace BoardConsole.Shell.Utility

open Act

/-- A power of a number, with what it leaves when divided by another. -/
def powerModulo (base exponent modulus : Nat) : Nat :=
  let rec go : (fuel : Nat) → (base exponent result : Nat) → Nat
    | 0, _, _, result => result
    | fuel + 1, base, exponent, result =>
      if exponent = 0 then result
      else
        let result := if exponent % 2 = 1 then result * base % modulus else result
        go fuel (base * base % modulus) (exponent / 2) result
  go (exponent.log2 + 1) (base % modulus) exponent (1 % modulus)

/-- Whether a number does not show by some base that an odd number above it is no prime. -/
def passesBase (n base : Nat) : Bool :=
  let rec halved : (fuel : Nat) → (odd twos : Nat) → Nat × Nat
    | 0, odd, twos => (odd, twos)
    | fuel + 1, odd, twos => if odd % 2 = 0 then halved fuel (odd / 2) (twos + 1) else (odd, twos)
  let (odd, twos) := halved (n.log2 + 1) (n - 1) 0
  let first := powerModulo base odd n
  let squares := (List.range twos).foldl (fun xs _ => (xs.headD 1 * xs.headD 1 % n) :: xs) [first]
  base % n = 0 || first = 1 || (squares.drop 1 ++ [first]).any (· = n - 1)

/-- The bases by which a number is tried; they tell all numbers up to more than 2⁸⁰ apart. -/
def trialBases : List Nat := [2, 3, 5, 7, 11, 13, 17, 19, 23, 29, 31, 37, 41]

/-- Whether a number is a prime. -/
def looksPrime (n : Nat) : Bool :=
  n = 2 || (n > 2 && n % 2 = 1 && trialBases.all (passesBase n))

/-- The primes up to a limit that divide a number, with what is left of it. -/
def smallFactors (limit : Nat) : (fuel : Nat) → (n divisor : Nat) → List Nat × Nat
  | 0, n, _ => ([], n)
  | fuel + 1, n, divisor =>
    if n < 2 || divisor > limit then ([], n)
    else if divisor * divisor > n then ([n], 1)
    else if n % divisor = 0 then
      let (found, left) := smallFactors limit fuel (n / divisor) divisor
      (divisor :: found, left)
    else smallFactors limit fuel n (if divisor = 2 then 3 else divisor + 2)

/-- A divisor of a number that is no prime: what two places of a sequence have in common with it, of
which one runs twice as fast. -/
def circleDivisor? (n shift : Nat) : (fuel : Nat) → (slow fast : Nat) → Option Nat
  | 0, _, _ => none
  | fuel + 1, slow, fast =>
    let next (x : Nat) : Nat := (x * x + shift) % n
    let slow := next slow
    let fast := next (next fast)
    let common := Nat.gcd (max slow fast - min slow fast) n
    if common = n then none
    else if common > 1 then some common
    else circleDivisor? n shift fuel slow fast

/-- The primes of a number without small ones. -/
def greatFactors : (fuel : Nat) → Nat → List Nat
  | 0, n => [n]
  | fuel + 1, n =>
    if n < 2 then []
    else if looksPrime n then [n]
    else
      match (List.range 20).findSome? fun k => circleDivisor? n (k + 1) 2000000 2 2 with
      | none   => [n]
      | some d => greatFactors fuel d ++ greatFactors fuel (n / d)

/-- The primes of a number, in order. -/
def primeFactors (n : Nat) : List Nat :=
  let (small, left) := smallFactors 5000 10000 n 2
  small ++ (greatFactors (left.log2 + 1) left).mergeSort

def factorUsage : Usage := { program := "factor", letters := "", names := [], misuse := 1 }

/-- The number that a word spells. -/
def factorable? (word : String) : Option Nat :=
  let digits := match word.toList.dropWhile (· = ' ') with
    | '+' :: cs => cs
    | cs        => cs
  if digits.isEmpty || !digits.all Char.isDigit then none else some (Arithmetic.valueOf 10 digits)

/-- Prints the primes of numbers. -/
def factor : Builtin := fun _ args => factorUsage.run args fun a => do
  let words ← if !a.rest.isEmpty then pure a.rest else do
    let text := ((← readAll? 0).toOption).getD ""
    pure ((text.toList.splitBy fun c d => (c = ' ' || c = '\t' || c = '\n') =
      (d = ' ' || d = '\t' || d = '\n')).map String.ofList |>.filter fun w =>
        !w.toList.all fun c => c = ' ' || c = '\t' || c = '\n')
  let mut lines := []
  let mut failed := false
  for word in words do
    match factorable? word with
    | some n => lines := (toString n ++ ":" ++
        String.join ((primeFactors n).map fun p => " " ++ toString p) ++ "\n") :: lines
    | none =>
      factorUsage.complain (cited word ++ " is not a valid positive integer")
      failed := true
  finish "factor" (String.join lines.reverse) failed

end BoardConsole.Shell.Utility
