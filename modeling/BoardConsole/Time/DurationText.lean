import BoardConsole.Text.Blank
import BoardConsole.Text.Number
import BoardConsole.Time.Duration

/-!
# Time — Durations in words

A duration is written as numbers with units, longest unit first: `1day 2h 500ms`. Reading accepts
more than is written: several spellings of each unit, parts in any order and repeated, blanks inside
a number and before its unit, and a fraction that comes to a whole number of nanoseconds, or of
seconds for hours and longer units. Every intermediate number has to fit a 64-bit word.
-/

namespace BoardConsole.Duration

/-- Seconds in a month: 30.44 days. -/
def month : Nat := 2630016

/-- Seconds in a year: 365.25 days. -/
def year : Nat := 31557600

/-! ### Writing -/

/-- A number and its unit, unless the number is zero. -/
def part (n : Nat) (unit : String) : List String :=
  if n = 0 then [] else [toString n ++ unit]

/-- A number and its unit, in the plural above one, unless the number is zero. -/
def counted (n : Nat) (unit : String) : List String :=
  part n (if 1 < n then unit ++ "s" else unit)

/-- The parts of a duration that are not zero. -/
def parts (d : Duration) : List String :=
  let secs := d.secs
  let nanos := d.subsecNanos
  let inYear := secs % year
  let inMonth := inYear % month
  let inDay := inMonth % 86400
  counted (secs / year) "year" ++ counted (inYear / month) "month" ++
    counted (inMonth / 86400) "day" ++ part (inDay / 3600) "h" ++ part (inDay % 3600 / 60) "m" ++
    part (inDay % 60) "s" ++ part (nanos / 1000000) "ms" ++ part (nanos / 1000 % 1000) "us" ++
    part (nanos % 1000) "ns"

/-- A duration in words. -/
def text (d : Duration) : String :=
  if d.isZero then "0s" else " ".intercalate d.parts

/-! ### Units -/

/-- Why a text states no duration. -/
inductive TextFault where
  | malformed
  /-- One second of nanoseconds is carried to the largest number of seconds. -/
  | carry
deriving DecidableEq, Repr

/-- A value, or a text that is malformed. -/
def orMalformed {α : Type} : Option α → Except TextFault α
  | some a => .ok a
  | none   => .error .malformed

/-- How much time a count of something is. -/
inductive Measure where
  | nanos (each : Nat)
  | secs (each : Nat)

/-- A number that fits a 64-bit word. -/
def word? (n : Nat) : Option Nat := if n < UInt64.size then some n else none

/-- Seconds and nanoseconds. -/
abbrev Amount := Nat × Nat

/-- The time of `n` things. -/
def Measure.times? (m : Measure) (n : Nat) : Option Amount :=
  match m with
  | nanos each => (word? (n * each)).map fun k => (0, k)
  | secs each  => (word? (n * each)).map fun k => (k, 0)

/-- The time of `num / den` of a thing, where that is whole. -/
def Measure.fraction? (m : Measure) (num den : Nat) : Option Amount := do
  let amount ← m.times? num
  if amount.1 % den = 0 ∧ amount.2 % den = 0 then some (amount.1 / den, amount.2 / den) else none

/-- A unit of time. -/
structure TimeUnit where
  names : List String
  whole : Measure
  /-- What fractions of the unit are counted in, where it can have any. -/
  split : Option Measure

/-- Every unit. -/
def units : List TimeUnit :=
  [⟨["nanos", "nsec", "ns"], .nanos 1, none⟩,
   ⟨["usec", "us", "µs"], .nanos 1000, some (.nanos 1000)⟩,
   ⟨["millis", "msec", "ms"], .nanos 1000000, some (.nanos 1000000)⟩,
   ⟨["seconds", "second", "secs", "sec", "s"], .secs 1, some (.nanos 1000000000)⟩,
   ⟨["minutes", "minute", "min", "mins", "m"], .secs 60, some (.nanos 60000000000)⟩,
   ⟨["hours", "hour", "hr", "hrs", "h"], .secs 3600, some (.secs 3600)⟩,
   ⟨["days", "day", "d"], .secs 86400, some (.secs 86400)⟩,
   ⟨["weeks", "week", "wk", "wks", "w"], .secs 604800, some (.secs 604800)⟩,
   ⟨["months", "month", "M"], .secs month, some (.secs month)⟩,
   ⟨["years", "year", "yr", "yrs", "y"], .secs year, some (.secs year)⟩]

/-- The unit of a name. -/
def unit? (name : String) : Option TimeUnit := units.find? (·.names.contains name)

/-! ### Reading -/

/-- A number as far as it has been read: its whole part, and the fraction `num / den`. -/
structure Figure where
  whole : Nat
  num   : Nat
  den   : Nat

/-- Where in a part the reading stands. -/
inductive Stage where
  | between
  | inWhole (whole : Nat)
  | inFraction (figure : Figure)
  /-- Inside the letters of a unit, the last one first. -/
  | inUnit (figure : Figure) (letters : List Char)

/-- A letter of a unit. -/
def isUnitChar (c : Char) : Bool := c.isAlpha || c == 'µ'

/-- The duration with an amount added. -/
def addAmount (d : Duration) (amount : Amount) : Except TextFault Duration := do
  let nanos ← orMalformed (word? (d.subsecNanos + amount.2))
  let sum := d.plus (ofParts amount.1 amount.2)
  if sum.fits then .ok sum
  else if nanos = second ∧ d.secs + amount.1 + 1 = UInt64.size then .error .carry
  else .error .malformed

/-- The duration with a number of units added. -/
def addUnits (d : Duration) (f : Figure) (letters : List Char) : Except TextFault Duration := do
  let unit ← orMalformed (unit? (String.ofList letters.reverse))
  let d ← d.addAmount (← orMalformed (unit.whole.times? f.whole))
  if f.den = 1 then .ok d
  else
    let split ← orMalformed unit.split
    d.addAmount (← orMalformed (split.fraction? f.num f.den))

/-- A number with one more digit. -/
def digit (n : Nat) (c : Char) : Except TextFault Nat :=
  orMalformed (word? (n * 10 + Text.digitValue c))

/-- Reads one character. The duration is that of the parts read so far, if there are any. -/
def advance (state : Stage × Option Duration) (c : Char) :
    Except TextFault (Stage × Option Duration) :=
  let (stage, sum) := state
  match stage with
  | .between =>
    if c.isDigit then .ok (.inWhole (Text.digitValue c), sum)
    else if Text.isBlank c then .ok (.between, sum)
    else .error .malformed
  | .inWhole n =>
    if c.isDigit then (digit n c).map fun n => (.inWhole n, sum)
    else if Text.isBlank c then .ok (.inWhole n, sum)
    else if isUnitChar c then .ok (.inUnit ⟨n, 0, 1⟩ [c], sum)
    else if c = '.' then .ok (.inFraction ⟨n, 0, 1⟩, sum)
    else .error .malformed
  | .inFraction f =>
    if c.isDigit then do
      let num ← digit f.num c
      let den ← orMalformed (word? (f.den * 10))
      .ok (.inFraction ⟨f.whole, num, den⟩, sum)
    else if Text.isBlank c then .ok (.inFraction f, sum)
    else if isUnitChar c ∧ f.den ≠ 1 then .ok (.inUnit f [c], sum)
    else .error .malformed
  | .inUnit f letters =>
    if isUnitChar c then .ok (.inUnit f (c :: letters), sum)
    else if c.isDigit then
      ((sum.getD zero).addUnits f letters).map fun d => (.inWhole (Text.digitValue c), some d)
    else if Text.isBlank c then
      ((sum.getD zero).addUnits f letters).map fun d => (.between, some d)
    else .error .malformed

/-- The duration that a text states. Zero may lack a unit. -/
def ofText (s : String) : Except TextFault Duration :=
  if s = "0" then .ok zero
  else do
    let (stage, sum) ← s.toList.foldlM advance (.between, none)
    match stage with
    | .between          => orMalformed sum
    | .inUnit f letters => (sum.getD zero).addUnits f letters
    | _                 => .error .malformed

end BoardConsole.Duration
