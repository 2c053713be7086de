/-!
# Shell — Permissions

Permissions as numbers and as clauses such as `u+x,go=r`: who, an operator, and what.
-/

namespace BoardConsole.Shell.Mode

/-- The bits that a letter for a class of users stands for. -/
def users? (c : Char) : Option Nat :=
  [('u', 0o4700), ('g', 0o2070), ('o', 0o1007), ('a', 0o7777)].lookup c

/-- The bits that a letter for a permission stands for, for all users. `runs` says whether somebody
may run the file already, or it is a directory. -/
def permission? (runs : Bool) (c : Char) : Option Nat :=
  [('r', 0o444), ('w', 0o222), ('x', 0o111), ('s', 0o6000), ('t', 0o1000),
   ('X', if runs then 0o111 else 0)].lookup c

/-- The permissions that a class of users has, given to all classes. -/
def copied? (mode : Nat) (c : Char) : Option Nat :=
  let bits? :=
    [('u', mode / 64 % 8), ('g', mode / 8 % 8), ('o', mode % 8)].lookup c
  bits?.map fun bits => bits * 0o111

/-- All bits. -/
def all : Nat := 0o7777

/-- The difference of two sets of bits. -/
def without (a b : Nat) : Nat := a &&& (all ^^^ b)

def isOperator (c : Char) : Bool := c == '+' || c == '-' || c == '='

def isOctalDigit (c : Char) : Bool := '0' ≤ c && c ≤ '7'

/-- The bits that a directory keeps where they are not asked for. -/
def kept (isDirectory : Bool) (mentioned : Nat) : Nat :=
  if isDirectory then without 0o6000 mentioned else 0

/-- What an operator makes of permissions: some bits of the users that are affected, of which others
are left as they are. -/
def apply (operator : Char) (mode affected bits left : Nat) : Nat :=
  let bits := without bits left
  match operator with
  | '+' => mode ||| bits
  | '-' => without mode bits
  | _   => (mode &&& (without all affected ||| left)) ||| bits

/-- The number of octal digits. -/
def number (digits : List Char) : Nat := digits.foldl (fun n c => n * 8 + (c.toNat - 48)) 0

/-- What the operators of one clause make of permissions; nothing if it is malformed. `masked` holds
the bits that are left alone where no user is named. -/
def changeBy (isDirectory : Bool) (users : Option Nat) (masked : Nat) :
    (fuel : Nat) → Nat → List Char → Option Nat
  | 0, mode, _ => some mode
  | _, mode, [] => some mode
  | fuel + 1, mode, operator :: cs =>
    if !isOperator operator then none
    else
      let digits := cs.takeWhile isOctalDigit
      if !digits.isEmpty then
        if users.isSome || digits.length < cs.length || all < number digits then none
        else some (apply operator mode all (number digits) 0)
      else
        let (bits?, rest) := match cs with
          | c :: rest =>
            match copied? mode c with
            | some bits => (some bits, rest)
            | none =>
              let letters := cs.takeWhile fun c => (permission? false c).isSome
              (some ((letters.filterMap (permission? (isDirectory || mode &&& 0o111 != 0))).foldl
                (· ||| ·) 0), cs.drop letters.length)
          | [] => (some 0, [])
        match bits? with
        | none      => none
        | some bits =>
          let bits := match users with
            | some users => bits &&& users
            | none       => without bits masked
          let left := kept isDirectory (users.getD 0)
          changeBy isDirectory users masked fuel (apply operator mode (users.getD all) bits left) rest

/-- What a clause makes of permissions. -/
def change? (isDirectory : Bool) (masked mode : Nat) (clause : List Char) : Option Nat :=
  let who := clause.takeWhile fun c => (users? c).isSome
  let users := if who.isEmpty then none else
    some (who.foldl (fun n c => n ||| (users? c).getD 0) 0)
  match clause.drop who.length with
  | []   => none
  | rest => changeBy isDirectory users masked (rest.length + 1) mode rest

/-- The number that a text of octal digits spells. -/
def octal? (s : String) : Option Nat :=
  if s != "" && s.all isOctalDigit then some (number s.toList) else none

/-- What a text makes of permissions; nothing if it is malformed. Fewer than five digits leave the
special bits of a directory alone. -/
def ofText? (isDirectory : Bool) (masked mode : Nat) (s : String) : Option Nat :=
  match octal? s with
  | some n =>
    if all < n then none
    else if s.length < 5 then some (n ||| (mode &&& kept isDirectory n)) else some n
  | none =>
    (s.splitOn ",").foldl (fun mode clause =>
      mode.bind fun mode => change? isDirectory masked mode clause.toList) (some mode)

/-- Three letters for the permissions of one class. -/
def letters (bits : Nat) : String :=
  (if bits &&& 4 != 0 then "r" else "") ++ (if bits &&& 2 != 0 then "w" else "") ++
    (if bits &&& 1 != 0 then "x" else "")

/-- Permissions as a listing shows them. -/
def shown (mode : Nat) : String :=
  let triple (bits special : Nat) (mark : Char) : String :=
    let runs := bits &&& 1 != 0
    (if bits &&& 4 != 0 then "r" else "-") ++ (if bits &&& 2 != 0 then "w" else "-") ++
      (if mode &&& special != 0 then String.ofList [if runs then mark else mark.toUpper]
       else if runs then "x" else "-")
  triple (mode / 64 % 8) 0o4000 's' ++ triple (mode / 8 % 8) 0o2000 's' ++
    triple (mode % 8) 0o1000 't'

end BoardConsole.Shell.Mode
