import BoardConsole.Shell.Options
import BoardConsole.Shell.Spelled

/-!
# Shell — Formats

The texts that `echo` and `printf` make: backslashes stand for characters, and the directives of a
format for its arguments in the form that they ask for. A format is used again as long as arguments
are left.
-/

namespace BoardConsole.Shell.Format

/-! ### Backslashes -/

/-- The character that a letter stands for after a backslash. -/
def letter? (c : Char) : Option Char :=
  [('\\', '\\'), ('a', '\x07'), ('b', '\x08'), ('e', '\x1b'), ('f', '\x0c'), ('n', '\n'),
   ('r', '\r'), ('t', '\t'), ('v', '\x0b')].lookup c

/-- A character by its octal number, of which the last eight bits count. -/
def octal (digits : List Char) : Char :=
  Char.ofNat (digits.foldl (fun n c => n * 8 + (c.toNat - 48)) 0 % 256)

def isOctal (c : Char) : Bool := '0' ≤ c && c ≤ '7'

/-- The octal digits at the beginning of a text, up to three of them. -/
def octalDigits (cs : List Char) : List Char := (cs.take 3).takeWhile isOctal

/-- The text of an argument, and whether it breaks the output off. A backslash and a zero may be
followed by three octal digits. -/
def unescape : (fuel : Nat) → List Char → List Char × Bool
  | 0, cs => (cs, false)
  | _, [] => ([], false)
  | fuel + 1, '\\' :: c :: cs =>
    if c = 'c' then ([], true)
    else
      let (out, rest) :=
        match letter? c with
        | some d => ([d], cs)
        | none =>
          if isOctal c then
            let digits := if c = '0' then octalDigits cs else octalDigits (c :: cs)
            ([octal digits], if c = '0' then cs.drop digits.length else (c :: cs).drop digits.length)
          else (['\\', c], cs)
      let (more, stops) := unescape fuel rest
      (out ++ more, stops)
  | fuel + 1, c :: cs =>
    let (more, stops) := unescape fuel cs
    (c :: more, stops)

/-- The text of an argument, and whether it breaks the output off. -/
def unescaped (s : String) : String × Bool :=
  let (text, stops) := unescape (s.length + 1) s.toList
  (String.ofList text, stops)

/-! ### Directives -/

/-- How the value of a directive is laid out. -/
structure Layout where
  left      : Bool
  plus      : Bool
  space     : Bool
  alternate : Bool
  zero      : Bool
  width     : Nat
  precision : Option Nat

/-- A text filled up to the width. -/
def Layout.fill (l : Layout) (s : String) : String :=
  let gap := repeated (l.width - s.length) ' '
  if l.left then s ++ gap else gap ++ s

/-- A text cut to the precision and filled up to the width. -/
def Layout.text (l : Layout) (s : String) : String :=
  l.fill (match l.precision with
    | some n => String.ofList (s.toList.take n)
    | none   => s)

/-- The mark of a number's sign. -/
def Layout.sign (l : Layout) (negative : Bool) : String :=
  if negative then "-" else if l.plus then "+" else if l.space then " " else ""

/-- A sign or a mark of the base and digits, filled up to the width. -/
def Layout.number (l : Layout) (before digits : String) (padsZero : Bool) : String :=
  if padsZero && !l.left then
    before ++ repeated (l.width - before.length - digits.length) '0' ++ digits
  else l.fill (before ++ digits)

/-- The digits of a number of some base, at least as many as the precision says. -/
def Layout.digits (l : Layout) (base n : Nat) : String :=
  let digits := if n = 0 && l.precision = some 0 then [] else Nat.toDigits base n
  String.ofList (List.replicate (l.precision.getD 1 - digits.length) '0' ++ digits)

/-- A signed number. -/
def Layout.signed (l : Layout) (n : Int) : String :=
  l.number (l.sign (n < 0)) (l.digits 10 n.natAbs) (l.zero && l.precision.isNone)

/-- An unsigned number. -/
def Layout.unsigned (l : Layout) (directive : Char) (n : Nat) : String :=
  let padsZero := l.zero && l.precision.isNone
  match directive with
  | 'o' =>
    let digits := l.digits 8 n
    let mark := if l.alternate && !digits.startsWith "0" then "0" else ""
    l.number "" (mark ++ digits) padsZero
  | 'u' => l.number "" (l.digits 10 n) padsZero
  | c =>
    let mark := if l.alternate && n != 0 then "0x" else ""
    let text := l.number mark (l.digits 16 n) padsZero
    if c = 'X' then text.toUpper else text

/-- A fraction with its sign. -/
def Layout.ratio (l : Layout) (directive : Char) (negative : Bool) (value : Decimal.Ratio) : String :=
  let places := l.precision.getD 6
  let digits :=
    match directive.toLower with
    | 'f' => Decimal.positional value places l.alternate
    | 'e' => Decimal.exponential value places l.alternate
    | _   => Decimal.general value places l.alternate
  let text := l.number (l.sign negative) digits l.zero
  if directive.isUpper then text.toUpper else text

/-- A number with a fraction, which may be none. -/
def Layout.float (l : Layout) (directive : Char) (x : Float) : String :=
  let negative := Decimal.isNegative x
  if x.isNaN || x.isInf then
    let text := l.number (l.sign negative) (if x.isNaN then "nan" else "inf") false
    if directive.isUpper then text.toUpper else text
  else l.ratio directive negative (.ofFloat x)

/-! ### Numbers of arguments -/

/-- A fault of a number that does not keep it from being printed. -/
inductive NumberFault where
  | notNumeric
  | notAll
  | outOfRange

/-- The words for a fault. -/
def NumberFault.message : NumberFault → String
  | notNumeric => "expected numeric value"
  | notAll     => "not completely converted"
  | outOfRange => "Numerical result out of range"

/-- What follows a number that was read, as a fault. -/
def restFault (isRead : Bool) (rest : List Char) : Option NumberFault :=
  if rest.isEmpty then none else some (if isRead then .notAll else .notNumeric)

/-- The number of a text. A quote stands in front of a character whose number is meant. -/
def integer (signed : Bool) (s : String) : Int × Option NumberFault :=
  match s.toList with
  | '\'' :: cs | '"' :: cs => ((cs.headD '\x00').toNat, none)
  | cs =>
    let (negative, digits) := takeSign (cs.dropWhile Arithmetic.isBlank)
    match Arithmetic.readNatural? 0 digits with
    | none           => (0, restFault false cs)
    | some (n, rest) =>
      let greatest : Nat := if signed then Nat.pow 2 63 - 1 else Nat.pow 2 64 - 1
      let limit := if signed && negative then greatest + 1 else greatest
      if limit < n then
        let clamped : Int := if signed && negative then -(limit : Int) else limit
        (clamped, if rest.isEmpty then some .outOfRange else some .notAll)
      else
        let value : Int := if negative then -(n : Int) else n
        (if signed then value else value % Nat.pow 2 64, restFault true rest)

/-- The fraction of a text. -/
def float (s : String) : Float × Option NumberFault :=
  match s.toList with
  | '\'' :: cs | '"' :: cs => (Float.ofNat (cs.headD '\x00').toNat, none)
  | cs =>
    let (negative, digits) := takeSign (cs.dropWhile Arithmetic.isBlank)
    match Spelled.read? digits with
    | none           => (0.0, restFault false cs)
    | some (spelled, rest) =>
      let x := spelled.toFloat
      let isNumber := digits.head?.any fun c => c.isDigit || c == '.'
      let fault := if rest.isEmpty && x.isInf && isNumber then some .outOfRange else restFault true rest
      (if negative then -x else x, fault)

/-! ### Using a format -/

/-- What is left to do of a format. -/
structure Progress where
  arguments : List String
  /-- Whether an argument was used. -/
  used      : Bool
  status    : Nat

/-- Prints by a format. -/
abbrev Printer := StateT Progress Act

/-- The next argument. -/
def next? : Printer (Option String) := do
  match (← get).arguments with
  | []      => return none
  | a :: as =>
    modify ({ · with arguments := as, used := true })
    return some a

/-- Takes note of a fault of a number. -/
def note (s : String) (fault : Option NumberFault) : Printer Unit := do
  match fault with
  | none => return
  | some fault =>
    StateT.lift (Act.warn (s ++ ": " ++ fault.message))
    modify ({ · with status := 1 })

/-- The integer of the next argument. -/
def nextInteger (signed : Bool) : Printer Int := do
  match ← next? with
  | none => return 0
  | some s =>
    let (n, fault) := integer signed s
    note s fault
    return n

/-- A width or a precision: a number, or one that is given by an argument. -/
def readCount (cs : List Char) : Printer (Option Int × List Char) := do
  match cs with
  | '*' :: r => return (some (← nextInteger true), r)
  | r =>
    let digits := r.takeWhile Char.isDigit
    let n := if digits.isEmpty then none else some (Int.ofNat (Arithmetic.valueOf 10 digits))
    return (n, r.drop digits.length)

/-- The layout that a directive begins with. -/
def readLayout (cs : List Char) : Printer (Layout × List Char) := do
  let flags := cs.takeWhile fun c => "#-+ 0".contains c
  let (width, rest) ← readCount (cs.drop flags.length)
  let (precision, rest) ←
    match rest with
    | '.' :: r => do
      let (n, r) ← readCount r
      pure (some (n.getD 0), r)
    | r => pure (none, r)
  let width := width.getD 0
  let layout : Layout :=
    { left      := flags.contains '-' || width < 0
      plus      := flags.contains '+'
      space     := flags.contains ' '
      alternate := flags.contains '#'
      zero      := flags.contains '0'
      width     := width.natAbs
      precision := precision.bind fun n => if n < 0 then none else some n.toNat }
  return (layout, rest)

def emit (s : String) : Printer Unit := StateT.lift (Act.print s)

/-- Prints the value of a directive. Answers whether the output goes on. -/
def printDirective (layout : Layout) (directive : Char) (written : List Char) : Printer Bool := do
  match directive with
  | 'b' =>
    let (text, stops) := unescaped ((← next?).getD "")
    emit (layout.text text)
    return !stops
  | 'c' =>
    let c := ((← next?).getD "").toList.headD '\x00'
    emit (layout.fill (String.ofList [c]))
    return true
  | 's' =>
    emit (layout.text ((← next?).getD ""))
    return true
  | 'd' | 'i' =>
    emit (layout.signed (← nextInteger true))
    return true
  | 'o' | 'u' | 'x' | 'X' =>
    emit (layout.unsigned directive (← nextInteger false).toNat)
    return true
  | 'e' | 'E' | 'f' | 'F' | 'g' | 'G' =>
    match ← next? with
    | none   => emit (layout.float directive 0.0)
    | some s =>
      let (x, fault) := float s
      note s fault
      emit (layout.float directive x)
    return true
  | _ => StateT.lift (Act.fail (String.ofList written ++ ": invalid directive"))

/-- Goes through a format once. Answers whether the output goes on. -/
def printOnce : (fuel : Nat) → List Char → Printer Bool
  | 0, _ => return true
  | _, [] => return true
  | fuel + 1, '\\' :: c :: cs => do
    match letter? c with
    | some d =>
      emit (String.ofList [d])
      printOnce fuel cs
    | none =>
      let digits := octalDigits (c :: cs)
      if digits.isEmpty then
        emit "\\"
        printOnce fuel (c :: cs)
      else
        emit (String.ofList [octal digits])
        printOnce fuel ((c :: cs).drop digits.length)
  | fuel + 1, '%' :: '%' :: cs => do
    emit "%"
    printOnce fuel cs
  | fuel + 1, '%' :: cs => do
    let (layout, rest) ← readLayout cs
    match rest with
    | [] => StateT.lift (Act.fail "missing format character")
    | directive :: after =>
      let written := '%' :: cs.take (cs.length - after.length)
      if ← printDirective layout directive written then printOnce fuel after else return false
  | fuel + 1, c :: cs => do
    let plain := (c :: cs).takeWhile fun c => c != '%' && c != '\\'
    if plain.isEmpty then
      emit (String.ofList [c])
      printOnce fuel cs
    else
      emit (String.ofList plain)
      printOnce fuel ((c :: cs).drop plain.length)

/-- Goes through a format as long as arguments are left. -/
def printAll (format : List Char) : (fuel : Nat) → Printer Unit
  | 0 => return
  | fuel + 1 => do
    modify ({ · with used := false })
    let goesOn ← printOnce (format.length + 1) format
    let p ← get
    if goesOn && p.used && !p.arguments.isEmpty then printAll format fuel

/-- Prints arguments by a format, and answers the status. -/
def run (format : String) (arguments : List String) : Act Nat := do
  let (_, p) ← printAll format.toList (arguments.length + 1) ⟨arguments, false, 0⟩
  return p.status

end BoardConsole.Shell.Format
