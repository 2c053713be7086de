import BoardConsole.Shell.Utility.Count

/-!
# Shell — Dumps of bytes

`od` writes bytes as numbers or characters, some blocks of them a line. Each type has fields of a width
of its own; where a line has several types, the fields of all take the room of the widest.
-/

namespace BoardConsole.Shell.Utility

open Act

/-! ### Types of fields -/

/-- What a field shows of its bytes. -/
inductive FieldKind where
  | signed
  | unsigned
  | octal
  | hexadecimal
  | fraction
  | character
  | named
deriving DecidableEq

/-- A type of fields. -/
structure FieldType where
  kind    : FieldKind
  /-- The bytes of a field. -/
  size    : Nat
  /-- Whether the characters follow at the end of a line. -/
  trailer : Bool
deriving DecidableEq

/-- The columns of a field, without the blank in front of it. -/
def FieldType.width (t : FieldType) : Nat :=
  let among (widths : List (Nat × Nat)) : Nat := (widths.lookup t.size).getD 3
  match t.kind with
  | .character | .named => 3
  | .signed      => among [(1, 4), (2, 6), (4, 11), (8, 20)]
  | .unsigned    => among [(1, 3), (2, 5), (4, 10), (8, 20)]
  | .octal       => among [(1, 3), (2, 6), (4, 11), (8, 22)]
  | .hexadecimal => among [(1, 2), (2, 4), (4, 8), (8, 16)]
  | .fraction    => among [(4, 15), (8, 24), (16, 29)]

/-- The names of the characters that are not printed. -/
def characterNames : Array String :=
  #["nul", "soh", "stx", "etx", "eot", "enq", "ack", "bel", "bs", "ht", "nl", "vt", "ff", "cr", "so",
    "si", "dle", "dc1", "dc2", "dc3", "dc4", "nak", "syn", "etb", "can", "em", "sub", "esc", "fs", "gs",
    "rs", "us", "sp"]

/-- A character by its name. -/
def namedCharacter (c : Char) : String :=
  let n := c.toNat % 128
  if n = 127 then "del" else characterNames.getD n (String.ofList [Char.ofNat n])

/-- A character by itself, by its escape or by its octal number. -/
def escapedCharacter (c : Char) : String :=
  let escapes : List (Char × String) :=
    [('\x00', "\\0"), ('\x07', "\\a"), ('\x08', "\\b"), ('\x0c', "\\f"), ('\n', "\\n"),
     ('\r', "\\r"), ('\t', "\\t"), ('\x0b', "\\v")]
  match escapes.lookup c with
  | some s => s
  | none =>
    if isPrinted c then String.ofList [c]
    else
      let digits := Nat.toDigits 8 c.toNat
      String.ofList (List.replicate (3 - digits.length) '0' ++ digits)

/-- The parts of a binary fraction in its bytes: the sign, the mantissa, the power of two, and
whether it is a number at all. -/
structure FractionBits where
  negative : Bool
  mantissa : Nat
  twos     : Int
  /-- All bits of the exponent are set. -/
  special  : Bool

/-- The parts of a fraction with an exponent of some bits and a mantissa of some bits, whose first bit
is written or not. -/
def FractionBits.ofNat (exponentBits mantissaBits : Nat) (written : Bool) (n : Nat) : FractionBits :=
  let fraction := n % Nat.pow 2 mantissaBits
  let exponent := n / Nat.pow 2 mantissaBits % Nat.pow 2 exponentBits
  let places := if written then mantissaBits - 1 else mantissaBits
  let least : Int := 2 - (Nat.pow 2 (exponentBits - 1) : Int) - places
  let mantissa := if written || exponent = 0 then fraction else fraction + Nat.pow 2 mantissaBits
  ⟨n / Nat.pow 2 (mantissaBits + exponentBits) % 2 = 1, mantissa,
    least + (exponent - 1 : Nat), exponent = Nat.pow 2 exponentBits - 1⟩

/-- The value without its sign. -/
def FractionBits.toRat (f : FractionBits) : Rat :=
  if f.twos < 0 then mkRat f.mantissa (Nat.pow 2 f.twos.natAbs) else ((f.mantissa * Nat.pow 2 f.twos.toNat : Nat) : Rat)

/-- The shortest text from which a fraction of some bits can be read again, of some digits at least. A
power of two below which there are no bits may be given. -/
def shortestText (bits : Nat) (least : Int) (digits : Nat) (x : Rat) : (fuel : Nat) → String
  | 0 => Decimal.general (.ofRat x) digits false
  | fuel + 1 =>
    let text := Decimal.general (.ofRat x) digits false
    let value := (Spelled.read? text.toList).bind fun (s, _) => s.toRat?
    if value.map (nearestAbove bits least) = some x then text
    else shortestText bits least (digits + 1) x fuel

/-- A fraction in its bytes as a number of some bits. -/
def fractionText (size n : Nat) : String :=
  let (parts, bits, digits) :=
    if size = 4 then (FractionBits.ofNat 8 23 false n, 24, 6)
    else if size = 8 then (FractionBits.ofNat 11 52 false n, 53, 15)
    else (FractionBits.ofNat 15 64 true n, 64, 18)
  let least : Int := if size = 4 then -149 else if size = 8 then -1074 else -16445
  let sign := if parts.negative then "-" else ""
  if parts.special then
    let infinite : Bool := parts.mantissa % Nat.pow 2 (if size = 16 then 63 else bits - 1) = 0
    sign ++ (if infinite then "inf" else "nan")
  else
    let small : Bool := parts.mantissa < Nat.pow 2 (bits - 1)
    sign ++ shortestText bits least (if small then 1 else digits) parts.toRat 24

/-- The text of a field. -/
def FieldType.text (t : FieldType) (bigEndian : Bool) (bytes : List Char) : String :=
  let bytes := bytes ++ List.replicate (t.size - bytes.length) '\x00'
  let n := (if bigEndian then bytes else bytes.reverse).foldl (fun n c => n * 256 + c.toNat) 0
  let inBase (base : Nat) : String :=
    let digits := Nat.toDigits base n
    String.ofList (List.replicate (t.width - digits.length) '0' ++ digits)
  match t.kind with
  | .character   => escapedCharacter (bytes.headD '\x00')
  | .named       => namedCharacter (bytes.headD '\x00')
  | .octal       => inBase 8
  | .hexadecimal => inBase 16
  | .unsigned    => toString n
  | .signed      => toString (if n < Nat.pow 2 (8 * t.size - 1) then (n : Int) else n - Nat.pow 2 (8 * t.size))
  | .fraction    => fractionText t.size n

/-! ### Options -/

def odUsage : Usage :=
  { program := "od", letters := "A:j:N:S:σ::t:vw::abcdfFilosxhHIOLXDeBε:τ", misuse := 1
    names := [("address-radix", 'A'), ("skip-bytes", 'j'), ("read-bytes", 'N'), ("format", 't'),
      ("output-duplicates", 'v'), ("strings", 'σ'), ("width", 'w'), ("endian", 'ε'),
      ("traditional", 'τ')] }

/-- The types that letters of options stand for. -/
def typeLetters : List (Char × String) :=
  [('a', "a"), ('b', "o1"), ('c', "c"), ('d', "u2"), ('f', "fF"), ('F', "fD"), ('i', "dI"), ('l', "dL"),
   ('o', "o2"), ('s', "d2"), ('x', "x2"), ('h', "x2"), ('H', "x4"), ('I', "dL"), ('O', "o4"),
   ('L', "dL"), ('X', "x4"), ('D', "u4"), ('e', "fD"), ('B', "o2")]

/-- The types that a text lists, or what is said of it. -/
def fieldTypes (whole : String) : (fuel : Nat) → List Char → Except String (List FieldType)
  | 0, _ | _, [] => .ok []
  | fuel + 1, c :: rest => do
    let kinds : List (Char × FieldKind) :=
      [('d', .signed), ('u', .unsigned), ('o', .octal), ('x', .hexadecimal), ('f', .fraction),
       ('a', .named), ('c', .character)]
    match kinds.lookup c with
    | none =>
      throw ("invalid character " ++ cited (String.ofList [c]) ++ " in type string " ++ cited whole)
    | some kind =>
      let isCharacter : Bool := kind = .named || kind = .character
      let sizes : List (Char × Nat) :=
        if isCharacter then []
        else if kind = .fraction then [('F', 4), ('D', 8), ('L', 16)]
        else [('C', 1), ('S', 2), ('I', 4), ('L', 8)]
      let digits := if isCharacter then [] else rest.takeWhile Char.isDigit
      let number := Arithmetic.valueOf 10 digits
      let known := if kind = .fraction then [4, 8, 16] else [1, 2, 4, 8]
      let (size, rest) ←
        match rest.head?.bind (List.lookup · sizes) with
        | some n => pure (n, rest.drop 1)
        | none =>
          if digits.isEmpty then
            pure (if isCharacter then 1 else if kind = .fraction then 8 else 4, rest)
          else if known.contains number then pure (number, rest.drop digits.length)
          else
            let what := if kind = .fraction then "floating point" else "integral"
            throw ("invalid type string " ++ cited whole ++ ";\nthis system doesn't provide a " ++
              toString number ++ "-byte " ++ what ++ " type")
      let trailer := rest.head? = some 'z'
      let rest := if trailer then rest.drop 1 else rest
      return ⟨kind, size, trailer⟩ :: (← fieldTypes whole fuel rest)

/-- The number of bytes that a text spells: octal or hexadecimal, as its beginning says, and with a
unit behind it. -/
def byteCount? (s : String) : Option Nat :=
  match Arithmetic.readNatural? 0 s.toList with
  | none           => none
  | some (n, rest) => (unitValue? (String.ofList rest)).map (n * ·)

/-- How a dump is written. -/
structure DumpFormat where
  types      : List FieldType
  /-- The base of the addresses, or none. -/
  radix      : Option Nat
  bigEndian  : Bool
  /-- The bytes of a line. -/
  block      : Nat
  duplicates : Bool

/-- An address. -/
def DumpFormat.address (f : DumpFormat) (n : Nat) : String :=
  match f.radix with
  | none      => ""
  | some base =>
    let digits := Nat.toDigits base n
    String.ofList (List.replicate ((if base = 16 then 6 else 7) - digits.length) '0' ++ digits)

/-- The columns of a line of fields. -/
def DumpFormat.room (f : DumpFormat) : Nat :=
  f.types.foldl (fun n t => max n ((t.width + 1) * (f.block / t.size))) 0

/-- The fields of a line of some type. -/
def DumpFormat.fields (f : DumpFormat) (t : FieldType) (bytes : List Char) : String :=
  let count := f.block / t.size
  let pad := f.room - t.width * count
  let blank := (f.block - bytes.length) / t.size
  let parts := (List.range (count - blank)).map fun k =>
    let left := count - k
    let own := pad * left / count - pad * (left - 1) / count
    padLeft (own + t.width) (t.text f.bigEndian ((bytes.drop (k * t.size)).take t.size))
  let fields := String.join parts
  if t.trailer then
    let gap := blank * t.width + pad * blank / count
    fields ++ repeated gap ' ' ++ "  >" ++
      String.ofList (bytes.map fun c => if isPrinted c then c else '.') ++ "<"
  else fields

/-- The lines of a block of bytes at an address. -/
def DumpFormat.lines (f : DumpFormat) (address : Nat) (bytes : List Char) : String :=
  let start := f.address address
  String.join (f.types.zipIdx.map fun (t, n) =>
    (if n = 0 then start else repeated start.length ' ') ++ f.fields t bytes ++ "\n")

/-- The lines of blocks of bytes. A line of a star stands for those that are equal to the one before. -/
def DumpFormat.dump (f : DumpFormat) : (fuel : Nat) → (address : Nat) → (before : Option (List Char)) →
    (starred : Bool) → List Char → List String → List String
  | 0, _, _, _, _, out => out
  | fuel + 1, address, before, starred, bytes, out =>
    let block := bytes.take f.block
    if block.isEmpty then out
    else
      let rest := bytes.drop f.block
      let next := address + block.length
      if !f.duplicates && before = some block then
        f.dump fuel next before true rest (if starred then out else "*\n" :: out)
      else f.dump fuel next (some block) false rest (f.lines address block :: out)

/-- The strings among bytes that a zero ends, each with its address. -/
def stringsIn (least : Nat) (bytes : List Char) : List (Nat × String) :=
  let visible (c : Char) : Bool := isPrinted c || ('\x07' ≤ c && c ≤ '\r')
  let (found, _, _) := bytes.foldl
    (fun (found, run, position) c =>
      if visible c then (found, c :: run, position + 1)
      else
        let text := run.reverse
        let found := if c = '\x00' && least ≤ run.length && !run.isEmpty then
          (position - run.length, String.join (text.map fun c =>
            if isPrinted c then String.ofList [c] else escapedCharacter c)) :: found else found
        (found, [], position + 1))
    (([], [], 0) : List (Nat × String) × List Char × Nat)
  found.reverse

/-- An offset that an operand spells, in octal digits if not in others. -/
def offsetOperand? (s : String) : Option Nat :=
  let cs := s.toList
  let cs := if cs.head? = some '+' then cs.drop 1 else cs
  let (blocks, cs) := if cs.getLast? = some 'b' && cs.length > 1 && !cs.contains 'x' then
    (512, cs.dropLast) else (1, cs)
  let (base, cs) :=
    match cs with
    | '0' :: 'x' :: r => (16, r)
    | cs => (8, cs)
  let good (c : Char) : Bool := if base = 16 then isHexDigit c else Format.isOctal c
  if !cs.isEmpty && cs.all good then some (Arithmetic.valueOf base cs * blocks) else none

/-- The operands of the old form: names, and an offset behind the last of them. -/
def splitOffset (a : Arguments) : List String × Option Nat :=
  let modern := ['A', 'j', 'N', 't', 'v', 'S', 'w', 'ε'].any a.has
  if modern then (a.rest, none)
  else
    match a.rest with
    | [s] => if s.startsWith "+" then
        match offsetOperand? s with
        | some n => ([], some n)
        | none   => (a.rest, none)
      else (a.rest, none)
    | [name, s] =>
      let begins := s.toList.head?.any fun c => c = '+' || c.isDigit
      match offsetOperand? s with
      | some n => if begins then ([name], some n) else (a.rest, none)
      | none   => (a.rest, none)
    | names => (names, none)

/-- Writes bytes as numbers or characters. -/
def od : Builtin := fun _ args => odUsage.run args fun a => do
  let radices : List (String × Option Nat) :=
    [("o", some 8), ("d", some 10), ("x", some 16), ("n", none)]
  let radixWord := (a.last? 'A').getD "o"
  let radixFirst := String.ofList (radixWord.toList.take 1)
  let counts := ['j', 'N'].map fun letter => (letter, (a.last? letter).map fun s => (s, byteCount? s))
  for (letter, given) in counts do
    if let some (s, none) := given then
      odUsage.complain ("invalid -" ++ String.ofList [letter] ++ " argument " ++ cited s)
      return 1
  match radices.lookup radixFirst with
  | none =>
    odUsage.complain ("invalid output address radix " ++ cited radixFirst ++
      "; it must be one character from [doxn]")
    return 1
  | some radix =>
    let listed := a.options.filterMap fun (l, s) =>
      if l = 't' then some s else typeLetters.lookup l
    let mut types : List FieldType := []
    for s in listed do
      match fieldTypes s (s.length + 1) s.toList with
      | .ok more => types := types ++ more
      | .error fault =>
        odUsage.complain fault
        return 1
    if types.isEmpty then types := [⟨.octal, 2, false⟩]
    let (names, offset) := splitOffset a
    let (texts, failed) ← readInputs (plainWords "od") names
    if texts.isEmpty then return 1
    let all := texts.flatMap fun t => t.2.toList
    let number (letter : Char) : Option Nat := (a.last? letter).bind byteCount?
    let skipped := offset.getD ((number 'j').getD 0)
    if all.length < skipped then
      odUsage.complain "cannot skip past end of combined input"
      return 1
    let rest := all.drop skipped
    let bytes := match number 'N' with
      | some n => rest.take n
      | none   => rest
    if a.has 'S' || a.has 'σ' then
      let least := ((a.last? 'S').or (a.last? 'σ')).bind byteCount? |>.getD 3
      let least := if a.last? 'σ' = some "" then 3 else least
      let f : DumpFormat := ⟨types, radix, false, 16, true⟩
      let lines := (stringsIn least bytes).map fun (address, s) =>
        (if radix.isSome then f.address (skipped + address) ++ " " else "") ++ s
      return ← finish "od" (unlines lines) failed
    let common := types.foldl (fun n t => Nat.lcm n t.size) 1
    let standing := if common < 16 then common * (16 / common) else common
    let wanted := match a.last? 'w' with
      | none    => standing
      | some "" => 32
      | some s  => (byteCount? s).getD 0
    let block ←
      if wanted = 0 || wanted % common != 0 then do
        odUsage.complain
          ("warning: invalid width " ++ toString wanted ++ "; using " ++ toString common ++ " instead")
        pure common
      else pure wanted
    let f : DumpFormat :=
      ⟨types, radix, ((a.last? 'ε').getD "little").startsWith "b", block, a.has 'v'⟩
    let lines := (f.dump (bytes.length + 1) skipped none false bytes []).reverse
    let last := if radix.isSome then f.address (skipped + bytes.length) ++ "\n" else ""
    finish "od" (String.join lines ++ last) failed

end BoardConsole.Shell.Utility
