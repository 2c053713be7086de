import BoardConsole.Shell.Utility.Cut
import BoardConsole.Shell.Utility.Paths

/-!
# Shell — Numbers with units

`numfmt` reads numbers with or without letters for powers of a thousand or of 1024, and writes them so.
Numbers are long fractions: each step of a calculation is rounded to one.
-/

namespace BoardConsole.Shell.Utility

open Act

/-! ### Scales -/

/-- Which letters numbers have. -/
inductive Scale where
  | none
  /-- Letters of a thousand, or of 1024 where an `i` follows. -/
  | either
  | thousand
  | binary
  /-- Letters of 1024 that an `i` follows. -/
  | marked
deriving DecidableEq

/-- The scales by their names, for reading. -/
def scaleNames : List (String × Scale) :=
  [("none", .none), ("auto", .either), ("si", .thousand), ("iec", .binary), ("iec-i", .marked)]

/-- What a letter counts for. -/
def Scale.base : Scale → Nat
  | binary | marked => 1024
  | _               => 1000

/-- The letters of powers. -/
def powerLetters : List Char := ['K', 'M', 'G', 'T', 'P', 'E', 'Z', 'Y']

/-- The power that a letter stands for. -/
def powerOf? (c : Char) : Option Nat := (powerLetters.findIdx? (· = c)).map (· + 1)

/-- The long fraction that is nearest to a number. -/
def long (x : Rat) : Rat := nearest longBits x

/-- The size of a number. -/
def sizeOf_ (x : Rat) : Rat := if x < 0 then -x else x

/-! ### Reading -/

/-- Why a number cannot be read. -/
inductive ScaledFault where
  | overflow
  | noNumber
  | forbidden
  | badLetter
  | lacksMark
  | rest (text : String)

/-- The words for it. -/
def ScaledFault.message (s : String) : ScaledFault → String
  | overflow  => "value too large to be converted: '" ++ s ++ "'"
  | noNumber  => "invalid number: '" ++ s ++ "'"
  | forbidden => "rejecting suffix in input: '" ++ s ++ "' (consider using --from)"
  | badLetter => "invalid suffix in input: '" ++ s ++ "'"
  | lacksMark => "missing 'i' suffix in input: '" ++ s ++ "' (e.g Ki/Mi/Gi)"
  | rest text => "invalid suffix in input '" ++ s ++ "': '" ++ text ++ "'"

/-- The most digits that are read. -/
def mostDigits : Nat := 27

/-- The most digits that are written without a letter. -/
def mostPlainDigits : Nat := 18

/-- A number that was read, and how many places it had. -/
structure Scaled where
  value  : Rat
  places : Nat

/-- The digits of a number, of which there may not be too many, and what follows. -/
def readDigits (cs : List Char) : Except ScaledFault (Nat × List Char × List Char) :=
  let digits := cs.takeWhile Char.isDigit
  let counted := digits.dropWhile (· = '0')
  if mostDigits < counted.length then .error .overflow
  else .ok (Arithmetic.valueOf 10 digits, digits, cs.drop digits.length)

/-- The number that a text spells. -/
def readScaled (scale : Scale) (s : String) : Except ScaledFault Scaled := do
  let (negative, cs) := match s.toList with
    | '-' :: r => (true, r)
    | cs       => (false, cs)
  let (whole, digits, rest) ← readDigits cs
  if digits.isEmpty && rest.head? != some '.' then throw .noNumber
  let (value, places, rest) ← match rest with
    | '.' :: r => do
      let (part, digits, after) ← readDigits r
      if digits.isEmpty then throw .noNumber
      pure (long (whole + part / (Nat.pow 10 digits.length : Nat)), digits.length, after)
    | rest => pure (long whole, 0, rest)
  let value := if negative then -value else value
  match rest.dropWhile fun c => c = ' ' || c = '\t' with
  | [] => return ⟨value, places⟩
  | c :: rest =>
    match powerOf? c with
    | none => throw .badLetter
    | some power =>
      if scale = .none then throw .forbidden
      let (base, rest) ← match scale, rest with
        | .either, 'i' :: r => pure (1024, r)
        | .marked, 'i' :: r => pure (1024, r)
        | .marked, _        => throw .lacksMark
        | scale, rest       => pure (scale.base, rest)
      if !rest.isEmpty then throw (.rest (String.ofList rest))
      return ⟨long (value * (Nat.pow base power : Nat)), 0⟩

/-! ### Writing -/

/-- How numbers are rounded. -/
inductive Rounding where
  | up
  | down
  | fromZero
  | towardsZero
  | nearest
deriving DecidableEq

def roundingNames : List (String × Rounding) :=
  [("up", .up), ("down", .down), ("from-zero", .fromZero), ("towards-zero", .towardsZero),
   ("nearest", .nearest)]

/-- The whole number to which one is rounded. -/
def Rounding.apply (r : Rounding) (x : Rat) : Rat :=
  let half : Rat := mkRat 1 2
  let n : Int := match r with
    | up          => x.ceil
    | down        => x.floor
    | fromZero    => if x < 0 then x.floor else x.ceil
    | towardsZero => if x < 0 then x.ceil else x.floor
    | nearest     => if x < 0 then (x - half).ceil else (x + half).floor
  n

/-- How often a number can be divided by a base until it is less than that, and what is left. -/
def divided (base : Nat) : (fuel : Nat) → Rat → Nat → Rat × Nat
  | 0, x, power => (x, power)
  | fuel + 1, x, power =>
    if sizeOf_ x < base then (x, power) else divided base fuel (long (x / base)) (power + 1)

/-- A number with some places, and zeros up to a width. -/
def placesText (x : Rat) (places zeros : Nat) : String :=
  let digits := Decimal.positional (.ofRat x) places false
  let sign := if x < 0 then "-" else ""
  sign ++ repeated (zeros - sign.length - digits.length) '0' ++ digits

/-- How numbers are written. -/
structure ScaledForm where
  scale     : Scale
  rounding  : Rounding
  precision : Option Nat
  zeros     : Nat

/-- A number rounded to some places. -/
def ScaledForm.rounded (f : ScaledForm) (x : Rat) (places : Nat) : Rat :=
  let tens : Nat := Nat.pow 10 places
  long (f.rounding.apply (long (x * tens)) / tens)

/-- The text of a number. -/
def ScaledForm.text (f : ScaledForm) (x : Rat) (places : Nat) : String :=
  if f.scale = .none then placesText (f.rounded x places) places f.zeros
  else
    let base := f.scale.base
    let (x, power) := divided base 100 x 0
    let adjust := match f.precision with
      | some n => min (power * 3) n
      | none   => if sizeOf_ x < 10 then 1 else 0
    let x := f.rounded x adjust
    let (x, power) := if (base : Rat) ≤ sizeOf_ x then (long (x / base), power + 1) else (x, power)
    let shown := f.precision.getD (if x != 0 && sizeOf_ x < 10 && power != 0 then 1 else 0)
    let letter := if power = 0 then ""
      else String.ofList [powerLetters.getD (power - 1) 'Y'] ++ (if f.scale = .marked then "i" else "")
    placesText x shown f.zeros ++ letter

/-- A number as messages show it. -/
def shortText (x : Rat) : String :=
  (if x < 0 then "-" else "") ++ Decimal.general (.ofRat x) 6 false

/-- Why a number cannot be written. -/
def ScaledForm.fault? (f : ScaledForm) (x : Rat) (places : Nat) : Option String :=
  let (_, tens) := divided 10 100 x 0
  if f.scale = .none && mostPlainDigits < tens + places then
    some (if places = 0 then "value too large to be printed: '" ++ shortText x ++
        "' (consider using --to)"
      else "value/precision too large to be printed: '" ++ shortText x ++ "/" ++ toString places ++
        "' (consider using --to)")
  else if mostDigits - 1 < tens then
    some ("value too large to be printed: '" ++ shortText x ++ "' (cannot handle values > 999Y)")
  else none

/-! ### Formats -/

/-- What a format says: texts around a number, a width with its side, zeros and a precision. -/
structure ScaledFormat where
  before    : String
  after     : String
  padding   : Option Int
  zeros     : Nat
  precision : Option Nat

/-- The text in front of a directive, and what follows its sign. -/
def beforeDirective : (fuel : Nat) → List Char → Option (List Char × List Char)
  | 0, _ | _, [] => none
  | fuel + 1, '%' :: '%' :: r => (beforeDirective fuel r).map fun (t, r) => ('%' :: t, r)
  | _, '%' :: r => some ([], r)
  | fuel + 1, c :: r => (beforeDirective fuel r).map fun (t, r) => (c :: t, r)

/-- The format that a text spells. -/
def readScaledFormat (s : String) : Except String ScaledFormat := do
  let shown := "'" ++ s ++ "'"
  match beforeDirective (s.length + 1) s.toList with
  | none => throw ("format " ++ shown ++ " has no % directive")
  | some (before, rest) =>
    let flags := rest.takeWhile fun c => c = ' ' || c = '\'' || c = '0'
    let rest := rest.drop flags.length
    let (negative, digits) := takeSign rest
    let width := digits.takeWhile Char.isDigit
    let rest := if width.isEmpty then rest else digits.drop width.length
    let n := Arithmetic.valueOf 10 width
    let zeros := flags.contains '0' && !negative
    let padding : Option Int :=
      if n = 0 || zeros then none else some (if negative then -(n : Int) else n)
    if rest.isEmpty then throw ("format " ++ shown ++ " ends in %")
    let (precision, rest) ← match rest with
      | '.' :: r =>
        if r.head?.any fun c => c = ' ' || c = '\t' || c = '+' || c = '-' then
          throw ("invalid precision in format " ++ shown)
        let digits := r.takeWhile Char.isDigit
        pure (some (Arithmetic.valueOf 10 digits), r.drop digits.length)
      | r => pure (none, r)
    match rest with
    | 'f' :: after =>
      if (beforeDirective (after.length + 1) after).isSome then
        throw ("format " ++ shown ++ " has too many % directives")
      -- Of the text in front, as many characters are written as it stands for.
      return ⟨String.ofList (s.toList.take before.length), String.ofList after, padding,
        if zeros then n else 0, precision⟩
    | _ => throw ("invalid format " ++ shown ++ ", directive must be %[0]['][-][N][.][N]f")

/-! ### Lines -/

/-- What becomes of numbers that are none. -/
inductive OnFault where
  | abort
  | fail
  | warn
  | ignore
deriving DecidableEq

def onFaultNames : List (String × OnFault) :=
  [("abort", .abort), ("fail", .fail), ("warn", .warn), ("ignore", .ignore)]

/-- What is asked for. -/
structure ScaledOrder where
  source    : Scale
  fromUnit  : Nat
  toUnit    : Nat
  form      : ScaledForm
  padding   : Option Int
  before    : String
  after     : String
  suffix    : Option String
  delimiter : Option Char
  fields    : List Positions
  onFault   : OnFault

/-- A text filled up to a width, which is negative where the text stands on the left. -/
def padded (padding : Int) (s : String) : String :=
  let gap := repeated (padding.natAbs - s.length) ' '
  if padding < 0 then s ++ gap else gap ++ s

/-- The text of a field with its number written anew. `number` is that of the field. -/
def ScaledOrder.change (o : ScaledOrder) (number : Nat) (field : String) : Except String String := do
  let text := match o.suffix with
    | some suffix =>
      if suffix.length < field.length && field.endsWith suffix then
        String.ofList (field.toList.take (field.length - suffix.length))
      else field
    | none => field
  let inner := String.ofList (text.toList.dropWhile fun c => c = ' ' || c = '\t')
  let automatic : Option Int :=
    if o.padding.isNone && o.delimiter.isNone && (inner.length < text.length || 1 < number) then
      some text.length
    else none
  match readScaled o.source inner with
  | .error fault => throw (fault.message inner)
  | .ok n =>
    let value := if o.fromUnit = 1 && o.toUnit = 1 then n.value
      else long (long (n.value * o.fromUnit) / o.toUnit)
    let places := o.form.precision.getD n.places
    match o.form.fault? value places with
    | some message => throw message
    | none =>
      let shown := o.form.text value places ++ o.suffix.getD ""
      return o.before ++ padded ((o.padding.or automatic).getD 0) shown ++ o.after

/-- The fields of a line. -/
def ScaledOrder.split (o : ScaledOrder) (line : String) : List String :=
  match o.delimiter with
  | some d => line.splitOn (String.ofList [d])
  | none   => words (line.length + 1) line.toList
where
  /-- Words with the blanks before them, but for one between each two. -/
  words : (fuel : Nat) → List Char → List String
    | 0, _ => []
    | fuel + 1, cs =>
      let isGap (c : Char) : Bool := c = ' ' || c = '\t' || c = '\n'
      let gap := cs.takeWhile isGap
      let rest := cs.drop gap.length
      let word := rest.takeWhile fun c => !isGap c
      let field := String.ofList (gap ++ word)
      match rest.drop word.length with
      | []        => [field]
      | _ :: more => field :: words fuel more

/-- A line with its numbers written anew, and what is wrong with them. -/
def ScaledOrder.line (o : ScaledOrder) (s : String) : String × List String :=
  let results : List (String × Option String) := (o.split s).zipIdx.map fun (field, k) =>
    if o.fields.any (·.contains (k + 1)) then
      match o.change (k + 1) field with
      | .ok text       => (text, none)
      | .error message => (field, some message)
    else (field, none)
  let joint := String.ofList [o.delimiter.getD ' ']
  (joint.intercalate (results.map (·.1)), results.filterMap (·.2))

/-- What is printed of a line before the number that is at fault. -/
def ScaledOrder.upToFault (o : ScaledOrder) (s : String) : String :=
  let rec go : (number : Nat) → List String → String
    | _, [] => ""
    | number, field :: rest =>
      let joint := String.ofList [o.delimiter.getD ' ']
      if o.fields.any (·.contains number) then
        match o.change number field with
        | .ok text => text ++ joint ++ go (number + 1) rest
        | .error _ => ""
      else field ++ joint ++ go (number + 1) rest
  go 1 (o.split s)

/-! ### Running -/

def numfmtUsage : Usage :=
  { program := "numfmt", letters := "d:zφ:τ:α:β:γη::ι:π:ρ:σ:υ:ω:δ", misuse := 1
    names := [("debug", 'δ'), ("delimiter", 'd'), ("field", 'φ'), ("format", 'τ'), ("from", 'α'),
      ("from-unit", 'β'), ("grouping", 'γ'), ("header", 'η'), ("invalid", 'υ'), ("padding", 'π'),
      ("round", 'ρ'), ("suffix", 'σ'), ("to", 'ω'), ("to-unit", 'ι'), ("zero-terminated", 'z')] }

/-- The size that a unit has: a number with a letter of a thousand, or of 1024 with an `i`. -/
def unitSize? (s : String) : Option Nat :=
  let cs := s.toList
  let digits := cs.takeWhile Char.isDigit
  let count := if digits.isEmpty then 1 else Arithmetic.valueOf 10 digits
  let size? : Option Nat := match cs.drop digits.length with
    | []       => if digits.isEmpty then none else some count
    | [c]      => (powerOf? c).map fun n => count * Nat.pow 1000 n
    | [c, 'i'] => (powerOf? c).map fun n => count * Nat.pow 1024 n
    | _        => none
  size?.filter fun n => n != 0 && n < Nat.pow 2 64

/-- The whole number that a text spells. -/
def wholeNumber? (s : String) : Option Int :=
  let (negative, digits) := takeSign s.toList
  if digits.isEmpty || !digits.all Char.isDigit then none
  else
    let n : Int := Arithmetic.valueOf 10 digits
    some (if negative then -n else n)

/-- What a word of an option means. -/
def worded {α : Type} (names : List (String × α)) (usual : α) (word : Option String) : Option α :=
  match word with
  | none => some usual
  | some s =>
    match names.lookup s with
    | some a => some a
    | none =>
      match names.filter fun n => n.1.startsWith s with
      | [(_, a)] => some a
      | _        => none

/-- Why the arguments cannot be used. -/
inductive UnitsFault where
  | word (option word : String) (known : List String)
  | said (message : String)
  | used (message : String)

/-- What arguments ask for, with the number of lines that are left as they are. -/
def ScaledOrder.ofArguments (a : Arguments) : Except UnitsFault (ScaledOrder × Nat) := do
  let pick {α : Type} (letter : Char) (option : String) (names : List (String × α)) (usual : α) :
      Except UnitsFault α :=
    match worded names usual (a.last? letter) with
    | some found => .ok found
    | none       => .error (.word option ((a.last? letter).getD "") (names.map (·.1)))
  let source ← pick 'α' "--from" scaleNames .none
  let scale ← pick 'ω' "--to" (scaleNames.filter (·.1 != "auto")) .none
  let rounding ← pick 'ρ' "--round" roundingNames .fromZero
  let onFault ← pick 'υ' "--invalid" onFaultNames .abort
  let size (letter : Char) : Except UnitsFault Nat :=
    match a.last? letter with
    | none   => .ok 1
    | some s =>
      match unitSize? s with
      | some n => .ok n
      | none   => .error (.said ("invalid unit size: '" ++ s ++ "'"))
  let fromUnit ← size 'β'
  let toUnit ← size 'ι'
  let padding : Option Int ← match a.last? 'π' with
    | none   => pure none
    | some s =>
      match (wholeNumber? s).filter (· != 0) with
      | some n => pure (some n)
      | none   => throw (.said ("invalid padding value '" ++ s ++ "'"))
  let header ← match a.last? 'η' with
    | none    => pure 0
    | some "" => pure 1
    | some s  =>
      match (wholeNumber? s).filter (0 < ·) with
      | some n => pure n.toNat
      | none   => throw (.said ("invalid header value '" ++ s ++ "'"))
  let delimiter ← match (a.last? 'd').map String.toList with
    | none     => pure none
    | some []  => pure (some '\x00')
    | some [c] => pure (some c)
    | some _   => throw (.said "the delimiter must be a single character")
  let fields ← match a.last? 'φ' with
    | none     => pure [⟨1, some 1⟩]
    | some "-" => pure [⟨1, none⟩]
    | some s   =>
      match Positions.readAll (s.length + 1) s.toList with
      | .ok found    => pure found
      | .error fault => throw (.used (fault.message true))
  if a.has 'τ' && a.has 'γ' then throw (.said "--grouping cannot be combined with --format")
  let format ← match a.last? 'τ' with
    | none   => pure ⟨"", "", none, 0, none⟩
    | some s => (readScaledFormat s).mapError UnitsFault.said
  if a.has 'γ' && scale != .none then throw (.said "grouping cannot be combined with --to")
  let form : ScaledForm := ⟨scale, rounding, format.precision, format.zeros⟩
  return ({
    source, fromUnit, toUnit, form, delimiter, fields, onFault
    padding := format.padding.or padding, before := format.before, after := format.after
    suffix := a.last? 'σ' }, header)

/-- Writes the numbers of lines anew. -/
def writeScaled (o : ScaledOrder) (ending : String) :
    List (String × Bool) → (out : List String) → (failed : Bool) → Act Nat
  | [], out, failed => finish "numfmt" (String.join out.reverse) false >>= fun n =>
    return if n != 0 then n else if failed && o.onFault != .warn && o.onFault != .ignore then 2 else 0
  | (line, ended) :: rest, out, failed => do
    let (text, faults) := o.line line
    match faults with
    | [] => writeScaled o ending rest ((text ++ if ended then ending else "") :: out) failed
    | message :: _ =>
      if o.onFault = .abort then
        let _ ← printChecked "numfmt" (String.join (o.upToFault line :: out).reverse)
        numfmtUsage.complain message
        return 2
      else
        if o.onFault != .ignore then
          for message in faults do numfmtUsage.complain message
        writeScaled o ending rest ((text ++ if ended then ending else "") :: out) true

/-- Writes numbers anew, with other units. -/
def numfmt : Builtin := fun _ args => numfmtUsage.run args fun a => do
  match ScaledOrder.ofArguments a with
  | .error (.word option word known) => refuseWordOf numfmtUsage option word known
  | .error (.said message) =>
    numfmtUsage.complain message
    return 1
  | .error (.used message) => numfmtUsage.refuse message
  | .ok (o, header) =>
    let ending := String.ofList [lineEnd a]
    if !a.rest.isEmpty then writeScaled o ending (a.rest.map (·, true)) [] false
    else
      match ← readAll? 0 with
      | .error fault =>
        numfmtUsage.complain ("error reading input: " ++ fault.reason)
        return 1
      | .ok text =>
        let lines := (recordsOf ending text).map fun line =>
          if line.endsWith ending then (String.ofList line.toList.dropLast, true) else (line, false)
        let titles := (lines.take header).map fun (line, ended) =>
          line ++ if ended then ending else ""
        writeScaled o ending (lines.drop header) titles.reverse false

end BoardConsole.Shell.Utility
