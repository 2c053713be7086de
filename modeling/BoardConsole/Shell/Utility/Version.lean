import BoardConsole.Shell.Bytes

/-!
# Shell — The order of versions

The order in which names with numbers in them stand as people count: `f9` in front of `f10`. Two names
are compared piece by piece, runs of digits as numbers and all else character by character, letters in
front of other characters and a tilde in front of everything, the end of the name included. What looks
like the ending of a file name counts only where all else is equal.
-/

namespace BoardConsole.Shell.Utility.Version

/-- Where a character stands that is no digit; the end of a name is none, and a digit ends a piece. -/
def rank (c : Option Char) : Int :=
  match c with
  | none   => -1
  | some c =>
    if c.isDigit then 0
    else if c.isAlpha then c.toNat
    else if c = '~' then -2
    else c.toNat + 256

/-- The order of two runs of digits as numbers. -/
def compareDigits (a b : List Char) : Ordering :=
  let a := a.dropWhile (· = '0')
  let b := b.dropWhile (· = '0')
  (compare a.length b.length).then (if a = b then .eq else if a < b then .lt else .gt)

/-- The order of two names, all of whose characters count. -/
def comparePieces : (fuel : Nat) → List Char → List Char → Ordering
  | 0, _, _ => .eq
  | _, [], [] => .eq
  | fuel + 1, a, b =>
    let isOther (cs : List Char) : Bool := cs.head?.any fun c => !c.isDigit
    if isOther a || isOther b then
      match compare (rank a.head?) (rank b.head?) with
      | .eq => comparePieces fuel a.tail b.tail
      | o   => o
    else
      let m := a.takeWhile Char.isDigit
      let n := b.takeWhile Char.isDigit
      (compareDigits m n).then (comparePieces fuel (a.drop m.length) (b.drop n.length))

/-- How much of a name follows a point as its ending: a letter or a tilde and more of these and
digits. -/
def endingLength : List Char → Nat
  | '.' :: c :: cs =>
    if c.isAlpha || c = '~' then 2 + (cs.takeWhile fun c => c.isAlphanum || c = '~').length else 0
  | _ => 0

/-- How long a name is without its endings. A name is never an ending as a whole. -/
def stemLength : (fuel : Nat) → (passed stem : Nat) → List Char → Nat
  | 0, _, stem, _ => stem
  | _, _, stem, [] => stem
  | fuel + 1, passed, _, _ :: cs =>
    let passed := passed + 1
    let rec endings : (fuel : Nat) → List Char → Nat
      | 0, _ => 0
      | fuel + 1, cs =>
        match endingLength cs with
        | 0 => 0
        | n => n + endings fuel (cs.drop n)
    let skipped := endings cs.length cs
    stemLength fuel (passed + skipped) passed (cs.drop skipped)

/-- The order of two names. Hidden ones stand in front of the others. -/
def compareNames (a b : List Char) : Ordering :=
  let place (cs : List Char) : Nat :=
    match cs with
    | []         => 0
    | ['.']      => 1
    | ['.', '.'] => 2
    | '.' :: _   => 3
    | _          => 4
  match compare (place a) (place b) with
  | .eq =>
    if place a < 3 then .eq
    else
      let fuel := a.length + b.length + 1
      let stem (cs : List Char) : List Char := cs.take (stemLength (cs.length + 1) 0 0 cs)
      (comparePieces fuel (stem a) (stem b)).then (comparePieces fuel a b)
  | o => o

end BoardConsole.Shell.Utility.Version
