import BoardConsole.Shell.Utility.Text

/-!
# Shell — Bytes in letters

`base64` and its kin write bytes in letters of an alphabet, some bits a letter, in lines of some
length, and read them again. A group of bytes that is not full is filled up with signs of equality.
-/

namespace BoardConsole.Shell.Utility

open Act

/-! ### Alphabets -/

/-- A way to write bytes in letters. -/
structure Alphabet where
  letters : Array Char
  /-- The bits of a letter. -/
  bits    : Nat
  /-- The letters of a full group. -/
  group   : Nat
  /-- Whether the least bit comes first. -/
  turned  : Bool

/-- The letters between two of them. -/
def lettersFrom (first last : Char) : List Char :=
  (List.range (last.toNat + 1 - first.toNat)).map fun n => Char.ofNat (first.toNat + n)

def decimalDigits : List Char := lettersFrom '0' '9'

def upperLetters : List Char := lettersFrom 'A' 'Z'

/-- The alphabets by their names. -/
def alphabets : List (String × Alphabet) :=
  let long := upperLetters ++ lettersFrom 'a' 'z' ++ decimalDigits
  [("base64", ⟨(long ++ ['+', '/']).toArray, 6, 4, false⟩),
   ("base64url", ⟨(long ++ ['-', '_']).toArray, 6, 4, false⟩),
   ("base32", ⟨(upperLetters ++ lettersFrom '2' '7').toArray, 5, 8, false⟩),
   ("base32hex", ⟨(decimalDigits ++ lettersFrom 'A' 'V').toArray, 5, 8, false⟩),
   ("base16", ⟨(decimalDigits ++ lettersFrom 'A' 'F').toArray, 4, 2, false⟩),
   ("base2msbf", ⟨#['0', '1'], 1, 8, false⟩),
   ("base2lsbf", ⟨#['0', '1'], 1, 8, true⟩)]

/-- The bytes of a full group. -/
def Alphabet.bytes (a : Alphabet) : Nat := a.group * a.bits / 8

/-- The letters of a group of bytes. -/
def Alphabet.encodeGroup (a : Alphabet) (bytes : List Char) : List Char :=
  let bytes := if a.turned then bytes.map fun c =>
    Char.ofNat ((List.range 8).foldl (fun n k => n * 2 + c.toNat / Nat.pow 2 k % 2) 0) else bytes
  let filled := bytes ++ List.replicate (a.bytes - bytes.length) '\x00'
  let value := filled.foldl (fun n c => n * 256 + c.toNat) 0
  let used := (bytes.length * 8 + a.bits - 1) / a.bits
  (List.range a.group).map fun k =>
    if k < used then a.letters.getD (value / Nat.pow 2 (a.bits * (a.group - 1 - k)) % Nat.pow 2 a.bits) '='
    else '='

/-- Items in groups of some size. -/
def piecesOf {α : Type} (size : Nat) : (fuel : Nat) → List α → List (List α)
  | 0, _ => []
  | fuel + 1, items =>
    if items.isEmpty then [] else items.take size :: piecesOf size fuel (items.drop size)

/-- Bytes in letters. -/
def Alphabet.encode (a : Alphabet) (text : List Char) : List Char :=
  (piecesOf a.bytes text.length text).flatMap a.encodeGroup

/-- The bytes of a group of letters, and whether it was a good one. -/
def Alphabet.decodeGroup (a : Alphabet) (letters : List Char) : List Char × Bool :=
  let good := letters.takeWhile fun c => a.letters.contains c
  let rest := letters.drop good.length
  let value := good.foldl (fun n c => n * Nat.pow 2 a.bits + (a.letters.idxOf? c).getD 0) 0
  let count := good.length * a.bits / 8
  let value := value / Nat.pow 2 (good.length * a.bits - count * 8)
  let bytes := (List.range count).map fun k => value / Nat.pow 256 (count - 1 - k) % 256
  let bytes := if a.turned then
    bytes.map fun n => (List.range 8).foldl (fun m k => m * 2 + n / Nat.pow 2 k % 2) 0 else bytes
  let isFull := letters.length = a.group
  -- The letters of a group that is not full must be those of whole bytes.
  let needed := (count * 8 + a.bits - 1) / a.bits
  let wellFilled := rest.all (· = '=') && (rest.isEmpty || (0 < count && good.length = needed))
  (if !isFull && a.group = 8 then [] else bytes.map Char.ofNat, isFull && wellFilled)

/-- The bytes of groups of letters up to one that is not good, and whether there was such. -/
def Alphabet.decode (a : Alphabet) : List (List Char) → List Char → List Char × Bool
  | [], out => (out.reverse, true)
  | g :: groups, out =>
    let (bytes, good) := a.decodeGroup g
    let out := bytes.reverse ++ out
    if good then a.decode groups out else (out.reverse, false)

/-! ### Letters of ten bits -/

/-- The letters in which four bytes are written as five. -/
def fiveAlphabet : Array Char :=
  (decimalDigits ++ lettersFrom 'a' 'z' ++ upperLetters ++ ".-:+=^!/*?&<>()[]\x7b\x7d@%$#".toList).toArray

/-- Four bytes in five letters each; nothing where bytes are left over. -/
def encodeFive (text : List Char) : Option (List Char) :=
  if text.length % 4 != 0 then none
  else
    some ((piecesOf 4 text.length text).flatMap fun g =>
      let n := g.foldl (fun n c => n * 256 + c.toNat) 0
      (List.range 5).map fun k => fiveAlphabet.getD (n / Nat.pow 85 (4 - k) % 85) '0')

/-- Five letters as four bytes each; nothing where that cannot be. -/
def decodeFive (letters : List Char) : Option (List Char) :=
  if letters.length % 5 != 0 || letters.any (!fiveAlphabet.contains ·) then none
  else
    (piecesOf 5 letters.length letters).foldl
      (fun out g => out.bind fun out =>
        let n := g.foldl (fun n c => n * 85 + (fiveAlphabet.idxOf? c).getD 0) 0
        if n < Nat.pow 2 32 then
          some (out ++ (List.range 4).map fun k => Char.ofNat (n / Nat.pow 256 (3 - k) % 256))
        else none) (some [])

/-! ### Utilities -/

/-- How a utility that writes bytes in letters is used. -/
def encodeUsage (program : String) (names : List (String × Char)) : Usage :=
  { program, letters := "diw:" ++ String.ofList (names.map (·.2)), misuse := 1
    names := [("decode", 'd'), ("ignore-garbage", 'i'), ("wrap", 'w')] ++ names }

/-- Letters in lines of some length; none of them means one line without an end. -/
def wrapped (width : Nat) (letters : List Char) : String :=
  if width = 0 then String.ofList letters
  else unlines ((piecesOf width letters.length letters).map String.ofList)

/-- Writes bytes in letters, or reads them. -/
def encodeWith (u : Usage) (a : Arguments) (name : String) : Act Nat := do
  let width? := match a.last? 'w' with
    | none   => some 76
    | some s => s.toNat?
  match width?, a.rest.drop 1 with
  | none, _ =>
    u.complain ("invalid wrap size: " ++ cited ((a.last? 'w').getD ""))
    return 1
  | _, extra :: _ => u.refuse ("extra operand " ++ cited extra)
  | some width, [] =>
    let file := a.rest.headD "-"
    match ← readInput file with
    | .error reason =>
      let what := if reason = PathFault.isADirectory.reason then "read error" else shownName file
      u.complain (what ++ ": " ++ reason)
      return 1
    | .ok text =>
      let cs := text.toList
      let fail (text : List Char) : Act Nat := do
        let _ ← printChecked u.program (String.ofList text)
        u.complain "invalid input"
        return 1
      match alphabets.lookup name with
      | none =>
        if a.has 'd' then
          let letters := cs.filter fun c => c != '\n' && (!a.has 'i' || fiveAlphabet.contains c)
          match decodeFive letters with
          | some bytes => printChecked u.program (String.ofList bytes)
          | none       => fail []
        else
          match encodeFive cs with
          | some letters => printChecked u.program (wrapped width letters)
          | none =>
            u.complain "invalid input (length must be multiple of 4 characters)"
            return 1
      | some alphabet =>
        if a.has 'd' then
          let isLetter (c : Char) : Bool := c = '=' || alphabet.letters.contains c
          let letters := cs.filter fun c => c != '\n' && (!a.has 'i' || isLetter c)
          let (bytes, good) := alphabet.decode (piecesOf alphabet.group letters.length letters) []
          if good then printChecked u.program (String.ofList bytes) else fail bytes
        else printChecked u.program (wrapped width (alphabet.encode cs))

/-- Writes bytes in the letters of one alphabet. -/
def encodeAs (name : String) : Builtin := fun _ args =>
  let u := encodeUsage name []
  u.run args fun a => encodeWith u a name

/-- The letters of the options that choose an alphabet. -/
def alphabetNames : List (String × Char) :=
  [("base64", '6'), ("base64url", '7'), ("base32", '3'), ("base32hex", '4'), ("base16", '1'),
   ("base2msbf", '2'), ("base2lsbf", '5'), ("z85", '8')]

/-- Writes bytes in the letters of a chosen alphabet. -/
def basenc : Builtin := fun _ args =>
  let u := encodeUsage "basenc" alphabetNames
  u.run args fun a => do
    let chosen := a.options.filterMap fun o => (alphabetNames.find? (·.2 = o.1)).map (·.1)
    match chosen.getLast? with
    | none      => u.refuse "missing encoding type"
    | some name => encodeWith u a name

end BoardConsole.Shell.Utility
