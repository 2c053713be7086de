import BoardConsole.Shell.Utility.Text

/-!
# Shell — Numbers in a row

`seq` prints the numbers from one to another, with a step between them. They are computed with a
mantissa of 64 bits, each from the first, and the places behind the point are those of the texts that
spell the first and the step.
-/

namespace BoardConsole.Shell.Utility

open Act

def seqUsage : Usage :=
  { program := "seq", letters := "f:s:w", misuse := 1
    names := [("separator", 's'), ("equal-width", 'w'), ("format", 'f')] }

/-- A number of an argument. -/
structure Bound where
  /-- The value; nothing for one without end. -/
  value    : Option Rat
  negative : Bool
  /-- The columns of the text. -/
  width    : Int
  /-- The places behind the point, if the text says how many. -/
  places   : Option Nat

/-- The width and the places of a number that is spelled in decimal digits. -/
def Bound.layout (text : List Char) : Int × Nat :=
  let beforePoint := text.takeWhile (· != '.')
  let hasPoint : Bool := beforePoint.length < text.length
  let isExponent (c : Char) : Bool := c = 'e' || c = 'E'
  let fraction := (text.drop (beforePoint.length + 1)).takeWhile (!isExponent ·)
  let noWhole := !(beforePoint.getLast?.any Char.isDigit)
  let pointWidth : Int :=
    if !hasPoint then 0 else if fraction.isEmpty then -1 else if noWhole then 1 else 0
  let beforeExponent := text.takeWhile (!isExponent ·)
  let width : Int := text.length + pointWidth
  if beforeExponent.length = text.length then (width, fraction.length)
  else
    let (exponent, _) := Spelled.exponentOf 'e' (text.drop beforeExponent.length)
    let own := width - (text.length - beforeExponent.length : Nat)
    if exponent < 0 then
      let extra : Int := if hasPoint then (if fraction.isEmpty then 1 else 0) else 1
      (own + extra - exponent, fraction.length + exponent.natAbs)
    else
      let places := fraction.length - exponent.natAbs
      let less : Int := if hasPoint && places = 0 && !fraction.isEmpty then 1 else 0
      (own - less + (exponent.natAbs - fraction.length : Nat), places)

/-- Why an argument is no number of a row. -/
inductive BoundFault where
  | invalid
  | undefined

/-- The number that an argument spells. -/
def Bound.ofText (s : String) : Except BoundFault Bound :=
  let cs := s.toList.dropWhile Arithmetic.isBlank
  let (negative, digits) := takeSign cs
  match Spelled.read? digits with
  | none => .error .invalid
  | some (.undefined, []) => .error .undefined
  | some (spelled, []) =>
    let text := if cs.head? = some '+' then digits else cs
    let value := spelled.toRat?.map fun x => if negative then -x else x
    match spelled with
    | .decimal _ _ =>
      let (width, places) := Bound.layout text
      .ok ⟨value, negative, width, some places⟩
    | _ =>
      let whole := !text.contains '.' && !text.contains 'p'
      .ok ⟨value, negative, 0, if whole then some 0 else none⟩
  | some _ => .error .invalid

/-- How the numbers of a row are written. -/
structure RowFormat where
  before : String
  layout : Format.Layout
  letter : Char
  after  : String

/-- A layout without flags. -/
def plainLayout (precision : Option Nat) : Format.Layout :=
  ⟨false, false, false, false, false, 0, precision⟩

/-- The layout of the numbers of a row, by the texts of its bounds. -/
def RowFormat.ofBounds (equalWidth : Bool) (first step last : Bound) : RowFormat :=
  match first.places, step.places, last.places with
  | some p, some q, some r =>
    let places := max p q
    let widthOf (b : Bound) (own : Nat) : Int :=
      b.width + (places - own : Int) + (if own = 0 && places != 0 then 1 else 0)
    let lastWidth := widthOf last r - (if r != 0 && places = 0 then 1 else 0)
    let width := if equalWidth then (max (widthOf first p) lastWidth).toNat else 0
    ⟨"", { plainLayout (some places) with zero := true, width }, 'f', ""⟩
  | _, _, _ => ⟨"", plainLayout none, 'g', ""⟩

/-- The text of a format up to a directive or its end, two percent signs standing for one. -/
def formatText : List Char → List Char × List Char
  | '%' :: '%' :: rest => let (text, more) := formatText rest; ('%' :: text, more)
  | '%' :: rest        => ([], '%' :: rest)
  | c :: rest          => let (text, more) := formatText rest; (c :: text, more)
  | []                 => ([], [])

/-- The layout that a format asks for, or what is said of it. -/
def RowFormat.ofText (format : String) : Except String RowFormat := do
  let (before, rest) := formatText format.toList
  let said (what : String) : Except String RowFormat := .error ("format " ++ cited format ++ what)
  match rest with
  | '%' :: more =>
    let flags := more.takeWhile fun c => "-+#0 '".contains c
    let more := more.drop flags.length
    let width := more.takeWhile Char.isDigit
    let more := more.drop width.length
    let (precision, more) := match more with
      | '.' :: r =>
        let digits := r.takeWhile Char.isDigit
        (some (Arithmetic.valueOf 10 digits), r.drop digits.length)
      | r => (none, r)
    let more := if more.head? = some 'L' then more.drop 1 else more
    match more with
    | [] => said " ends in %"
    | letter :: more =>
      if !("efgaEFGA".contains letter) then
        said (" has unknown %" ++ String.ofList [letter] ++ " directive")
      else
        let (after, rest) := formatText more
        if !rest.isEmpty then said " has too many % directives"
        else
          let layout : Format.Layout :=
            { left := flags.contains '-', plus := flags.contains '+', space := flags.contains ' '
              alternate := flags.contains '#', zero := flags.contains '0'
              width := Arithmetic.valueOf 10 width, precision }
          return ⟨String.ofList before, layout, letter, String.ofList after⟩
  | _ => said " has no % directive"

/-- A number as a format writes it. -/
def RowFormat.write (f : RowFormat) (x : Rat) : String :=
  f.before ++ f.layout.ratio f.letter (x < 0) (.ofRat x) ++ f.after

/-- The value that a text spells. -/
def valueOfText? (s : String) : Option Rat :=
  let (negative, digits) := takeSign s.toList
  (Spelled.read? digits).bind fun (spelled, _) =>
    spelled.toRat?.map fun x => nearest longBits (if negative then -x else x)

/-- Some numbers of a row from one on, and whether that is all. The number behind the last one counts
where it is written like the last one, and not like the number in front of it. -/
def rowPart (f : RowFormat) (rounded : Rat → Rat) (first step : Rat) (last : Option Rat) :
    (fuel : Nat) → (n : Nat) → (before : Option String) → List String × Bool
  | 0, _, _ => ([], false)
  | fuel + 1, n, before =>
    let x := rounded (first + rounded (n * step))
    let text := f.write x
    let outside := match last with
      | none      => false
      | some last => if step < 0 then x < last else last < x
    if outside then
      let core := f.layout.ratio f.letter (x < 0) (.ofRat x)
      if before.isSome && valueOfText? core = last && before != some text then ([text], true)
      else ([], true)
    else
      let (rest, ended) := rowPart f rounded first step last fuel (n + 1) (some text)
      (text :: rest, ended)

/-- How many numbers are written at a time. -/
def rowBlock : Nat := 1000

/-- The most blocks that are written. -/
def greatestRow : Nat := 4000

/-- Prints the numbers of a row, from some number on. -/
def printRow (f : RowFormat) (separator : String) (rounded : Rat → Rat) (first step : Rat) (last : Option Rat) :
    (fuel : Nat) → (n : Nat) → (before : Option String) → Act Nat
  | 0, _, _ => return 0
  | fuel + 1, n, before => do
    let (texts, ended) := rowPart f rounded first step last rowBlock n before
    let lead := if before.isSome && !texts.isEmpty then separator else ""
    let close := if ended && (before.isSome || !texts.isEmpty) then "\n" else ""
    let status ← printChecked "seq" (lead ++ separator.intercalate texts ++ close)
    if ended || status != 0 then return status
    else printRow f separator rounded first step last fuel (n + rowBlock) (texts.getLast?.or before)

/-- A text that is a number or begins like one, so that it is no option. -/
def beginsNumber (s : String) : Bool :=
  match s.toList with
  | '-' :: c :: _ => c = '.' || c.isDigit
  | _             => false

/-- Prints numbers in a row. -/
def seq : Builtin := fun _ args =>
  -- A negative number is no option, and neither is what follows it.
  let options := args.takeWhile fun s => !beginsNumber s
  let ordered := if options.contains "--" || options.length = args.length then args
    else options ++ ["--"] ++ args.drop options.length
  seqUsage.runInOrder ordered fun a => do
    let operands := if a.rest.head? = some "--" then a.rest.drop 1 else a.rest.filter (· != "--")
    let given : Except String (Option RowFormat) := match a.last? 'f' with
      | none   => .ok none
      | some s => (RowFormat.ofText s).map some
    match operands, given with
    | [], _ => seqUsage.refuse "missing operand"
    | _ :: _ :: _ :: extra :: _, _ => seqUsage.refuse ("extra operand " ++ cited extra)
    | _, .error fault =>
      seqUsage.complain fault
      return 1
    | _, .ok given =>
      if given.isSome && a.has 'w' then
        return ← seqUsage.refuse
          "format string may not be specified when printing equal width strings"
      let mut bounds : List Bound := []
      for s in operands do
        match Bound.ofText s with
        | .error .invalid =>
          return ← seqUsage.refuse ("invalid floating point argument: " ++ cited s)
        | .error .undefined =>
          return ← seqUsage.refuse ("invalid " ++ cited "not-a-number" ++ " argument: " ++ cited s)
        | .ok b => bounds := bounds ++ [b]
      let one : Bound := ⟨some 1, false, 1, some 0⟩
      let (first, step, last) := match bounds with
        | [last]              => (one, one, last)
        | [first, last]       => (first, one, last)
        | first :: step :: ls => (first, step, ls.headD one)
        | []                  => (one, one, one)
      if step.value = some 0 then
        return ← seqUsage.refuse ("invalid Zero increment value: " ++ cited (operands.getD 1 ""))
      let f := given.getD (RowFormat.ofBounds (a.has 'w') first step last)
      let separator := (a.last? 's').getD "\n"
      -- Whole numbers in digits are exact.
      let exact := operands.all fun s => s.toList.all Char.isDigit
      let rounded (x : Rat) : Rat := if exact then x else nearest longBits x
      match first.value, step.value with
      | some x, some d =>
        -- A row that leads away from its last number is empty.
        if last.value.isNone && last.negative != decide (d < 0) then return 0
        printRow f separator rounded (rounded x) (rounded d) (last.value.map rounded) greatestRow 0 none
      | _, _ => return 0

end BoardConsole.Shell.Utility
