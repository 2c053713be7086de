import BoardConsole.Shell.Format

/-!
# Shell — Values of a scanning program

A value is a number or a text, and what has never been assigned is both nothing and zero. A text that
was read from an input counts as a number where it looks like one: then it is compared as such, and
holds where it is not zero.
-/

namespace BoardConsole.Shell.Scan

/-- A value. -/
inductive Value where
  | unset
  | number (x : Float)
  | text (s : String)
  /-- A text of an input, which may look like a number. -/
  | input (s : String)

instance : Inhabited Value := ⟨.unset⟩

/-! ### Numbers of texts -/

/-- The number that decimal digits spell, where they are not too many for it to be exact. -/
def plainNumber? (cs : List Char) : Option Float :=
  if !cs.isEmpty && cs.length ≤ 15 && cs.all Char.isDigit then
    some (Float.ofNat (Arithmetic.valueOf 10 cs))
  else none

/-- The number that a text begins with, or zero. -/
def numberOf (s : String) : Float :=
  let cs := s.toList
  match plainNumber? cs with
  | some x => x
  | none =>
    let (negative, digits) := takeSign (cs.dropWhile Arithmetic.isBlank)
    match Spelled.read? digits with
    | none              => 0.0
    | some (spelled, _) => if negative then -spelled.toFloat else spelled.toFloat

/-- A space between words of a line. -/
def isGap (c : Char) : Bool := Arithmetic.isBlank c

/-- The number that the whole of a text looks like, blanks around it left out. -/
def lookedNumber? (s : String) : Option Float :=
  let cs := s.toList
  match plainNumber? cs with
  | some x => some x
  | none =>
    let inner := ((cs.dropWhile isGap).reverse.dropWhile isGap).reverse
    let begins := inner.head?.any fun c => c.isDigit || c == '+' || c == '-' || c == '.'
    let ends := inner.getLast?.any fun c => c.isDigit || c == '.'
    if !begins || !ends then none
    else
      let (negative, digits) := takeSign inner
      match Spelled.read? digits with
      | some (spelled, []) =>
        let x := spelled.toFloat
        if x.isInf then none else some (if negative then -x else x)
      | _ => none

/-! ### Texts of numbers -/

/-- The whole number that a number is, as far as such are written out. -/
def whole? (x : Float) : Option Int :=
  if x < 0.0 then
    if x < -9223372036854775808.0 then none
    else
      let n := x.toInt64
      if n.toFloat == x then some n.toInt else none
  else if x ≤ 18446744073709551616.0 then
    let n := x.toUInt64
    if n.toFloat == x then some n.toNat else none
  else none

/-- The format in which numbers are written if nothing else is said. -/
def standingFormat : String := "%.6g"

/-- The whole number that is nearest to zero of those around a number, as large as words hold. -/
def truncated (x : Float) : Int :=
  if x.isNaN then -Nat.pow 2 63
  else if x < 0.0 then x.toInt64.toInt else x.toUInt64.toNat

/-! ### Formats -/

/-- What keeps a format from being followed to its end. -/
inductive FormatFault where
  | lacksValue
  /-- The number of the directive that means nothing. -/
  | improper (number : Nat)

/-- A value as it is, where a text of an input has been looked at. -/
def Value.settled : Value → Value
  | input s =>
    match lookedNumber? s with
    | some x => number x
    | none   => text s
  | v => v

/-- The number of a value. -/
def Value.toNumber : Value → Float
  | unset            => 0.0
  | number x         => x
  | text s | input s => numberOf s

/-- A number in the way of a directive. What is no number has a sign. -/
def floatText (layout : Format.Layout) (letter : Char) (x : Float) : String :=
  if x.isNaN then layout.fill (if letter.isUpper then "-NAN" else "-nan") else layout.float letter x

/-- The text of a number that is not whole, in a format of one directive. -/
def fractionText (format : String) (x : Float) : String :=
  let plain (places : Nat) (letter : Char) : String :=
    floatText ⟨false, false, false, false, false, 0, some places⟩ letter x
  if format = standingFormat then plain 6 'g'
  else
    let cs := format.toList
    let before := cs.takeWhile (· != '%')
    let rest := cs.drop (before.length + 1)
    let flags := rest.takeWhile fun c => "#-+ 0".contains c
    let rest := rest.drop flags.length
    let width := rest.takeWhile Char.isDigit
    let rest := rest.drop width.length
    let (precision, rest) := match rest with
      | '.' :: r =>
        let digits := r.takeWhile Char.isDigit
        (some (Arithmetic.valueOf 10 digits), r.drop digits.length)
      | r => (none, r)
    let layout : Format.Layout :=
      { left := flags.contains '-', plus := flags.contains '+', space := flags.contains ' '
        alternate := flags.contains '#', zero := flags.contains '0'
        width := Arithmetic.valueOf 10 width, precision }
    match rest with
    | letter :: after =>
      let shown :=
        if "eEfFgG".contains letter then floatText layout letter x
        else if letter = 'd' || letter = 'i' then layout.signed (truncated x)
        else ""
      String.ofList before ++ shown ++ String.ofList after
    | [] => String.ofList before

/-- The text of a number. -/
def numberText (format : String) (x : Float) : String :=
  match whole? x with
  | some n => toString n
  | none   => fractionText format x

/-- The text of a value. -/
def Value.toText (format : String) : Value → String
  | unset            => ""
  | number x         => numberText format x
  | text s | input s => s

/-- Whether a value holds as a condition. -/
def Value.holds (v : Value) : Bool :=
  match v.settled with
  | unset            => false
  | number x         => x != 0.0
  | text s | input s => s != ""

/-! ### Comparison -/

/-- The order of two texts by their characters. -/
def orderOf (s t : String) : Ordering :=
  if s = t then .eq else if s < t then .lt else .gt

/-- The order of two numbers; what cannot be compared counts as equal. -/
def orderOfNumbers (x y : Float) : Ordering :=
  if x < y then .lt else if y < x then .gt else .eq

/-- The order of two values: of numbers if both of them are such, else of texts. -/
def Value.compare (format : String) (a b : Value) : Ordering :=
  match a.settled, b.settled with
  | number x, number y => orderOfNumbers x y
  | unset, number y    => orderOfNumbers 0.0 y
  | number x, unset    => orderOfNumbers x 0.0
  | _, _               => orderOf (a.toText format) (b.toText format)

/-! ### Following a format -/

/-- What has been done of a format: the text, last part first, the values that are left, and the
directives that have been followed. -/
structure Filling where
  parts  : List String
  values : List Value
  count  : Nat

/-- The next value. -/
def Filling.next? (f : Filling) : Option (Value × Filling) :=
  match f.values with
  | []      => none
  | v :: vs => some (v, { f with values := vs })

def Filling.add (f : Filling) (s : String) : Filling := { f with parts := s :: f.parts }

/-- A width or a precision, which may be given by a value. -/
def readMeasure (f : Filling) (cs : List Char) : Option (Option Int × List Char × Filling) :=
  match cs with
  | '*' :: r => f.next?.map fun (v, f) => (some (truncated v.toNumber), r, f)
  | r =>
    let digits := r.takeWhile Char.isDigit
    some (if digits.isEmpty then none else some (Int.ofNat (Arithmetic.valueOf 10 digits)),
      r.drop digits.length, f)

/-- The character that a value stands for. -/
def characterOf (v : Value) : Char :=
  match v.settled with
  | .number x => Char.ofNat (truncated x % 256).toNat
  | v         => (v.toText standingFormat).toList.headD '\x00'

/-- The text of a value in the way of a directive; nothing for a directive that is none. -/
def shown? (format : String) (layout : Format.Layout) (letter : Char) (v : Value) : Option String :=
  match letter with
  | 's' => some (layout.text (v.toText format))
  | 'c' => some (layout.fill (String.ofList [characterOf v]))
  | 'd' | 'i' => some (layout.signed (truncated v.toNumber))
  | 'o' | 'u' | 'x' | 'X' => some (layout.unsigned letter ((truncated v.toNumber) % Nat.pow 2 64).toNat)
  | 'e' | 'E' | 'f' | 'F' | 'g' | 'G' => some (floatText layout letter v.toNumber)
  | _ => none

/-- A directive behind its sign, and what follows it. -/
def fillDirective (format : String) (f : Filling) (cs : List Char) :
    Except FormatFault (List Char × Filling) :=
  let flags := cs.takeWhile fun c => "#-+ 0".contains c
  match readMeasure f (cs.drop flags.length) with
  | none => .error .lacksValue
  | some (width, rest, f) =>
    let measured : Option (Option Int × List Char × Filling) := match rest with
      | '.' :: r => (readMeasure f r).map fun (n, r, f) => (some (n.getD 0), r, f)
      | r        => some (none, r, f)
    match measured with
    | none => .error .lacksValue
    | some (precision, rest, f) =>
      let rest := rest.dropWhile fun c => c = 'l' || c = 'h'
      let width := width.getD 0
      let layout : Format.Layout :=
        { left      := flags.contains '-' || width < 0
          plus      := flags.contains '+'
          space     := flags.contains ' '
          alternate := flags.contains '#'
          zero      := flags.contains '0'
          width     := width.natAbs
          precision := precision.bind fun n => if n < 0 then none else some n.toNat }
      match f.next? with
      | none => .error .lacksValue
      | some (v, f) =>
        let f := { f with count := f.count + 1 }
        match rest with
        | [] => .error (.improper f.count)
        | letter :: after =>
          match shown? format layout letter v with
          | some s => .ok (after, f.add s)
          | none   => .error (.improper f.count)

/-- Follows a format as far as that is possible. -/
def fillAll (format : String) : (fuel : Nat) → Filling → List Char → Filling × Option FormatFault
  | 0, f, _ => (f, none)
  | _, f, [] => (f, none)
  | fuel + 1, f, '%' :: '%' :: cs => fillAll format fuel (f.add "%") cs
  | fuel + 1, f, '%' :: cs =>
    match fillDirective format f cs with
    | .ok (cs, f)   => fillAll format fuel f cs
    | .error fault  => (f, some fault)
  | fuel + 1, f, c :: cs =>
    let plain := (c :: cs).takeWhile (· != '%')
    fillAll format fuel (f.add (String.ofList plain)) ((c :: cs).drop plain.length)

/-- The text that a format makes of values, and what keeps it from its end. Numbers in the place of
texts are written in a format of their own. -/
def filled (numbers format : String) (values : List Value) : String × Option FormatFault :=
  let (f, fault) := fillAll numbers (format.length + 1) ⟨[], values, 0⟩ format.toList
  (String.join f.parts.reverse, fault)

end BoardConsole.Shell.Scan
