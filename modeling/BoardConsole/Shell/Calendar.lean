import BoardConsole.Shell.Decimal
import BoardConsole.Shell.Spelled

/-!
# Shell — The calendar

Moments as dates: days are counted from the beginning of 1970, in years of twelve months with a leap
day every fourth year but three of four centuries. A moment is written by a format whose conversions
stand for its parts.
-/

namespace BoardConsole.Shell

/-! ### Days -/

/-- A day by its year, month and day of the month, both from one. -/
structure CivilDay where
  year  : Int
  month : Nat
  day   : Nat
deriving DecidableEq, Repr

namespace CivilDay

/-- The number of a day. The years begin in March here, so that a leap day ends one. -/
def toDays (d : CivilDay) : Int :=
  let year := if d.month ≤ 2 then d.year - 1 else d.year
  let era := year / 400
  let ofEra := year - era * 400
  let month : Int := (d.month + 9) % 12
  let ofYear := (153 * month + 2) / 5 + d.day - 1
  era * 146097 + (ofEra * 365 + ofEra / 4 - ofEra / 100 + ofYear) - 719468

/-- The day of a number. -/
def ofDays (n : Int) : CivilDay :=
  let z := n + 719468
  let era := z / 146097
  let ofEra := z - era * 146097
  let year := (ofEra - ofEra / 1460 + ofEra / 36524 - ofEra / 146096) / 365
  let ofYear := ofEra - (365 * year + year / 4 - year / 100)
  let m := (5 * ofYear + 2) / 153
  let day := ofYear - (153 * m + 2) / 5 + 1
  let month := if m < 10 then m + 3 else m - 9
  ⟨year + era * 400 + (if month ≤ 2 then 1 else 0), month.toNat, day.toNat⟩

end CivilDay

/-! ### Moments -/

/-- A zone: its name, and how many seconds it is ahead. -/
structure Zone where
  name  : String
  ahead : Int

/-- The zone that counts where nothing else is said. -/
def Zone.universal : Zone := ⟨"UTC", 0⟩

/-- A moment in a zone, by its parts. -/
structure Moment where
  date    : CivilDay
  hour    : Nat
  minute  : Nat
  second  : Nat
  nano    : Nat
  /-- The day of the week, from Sunday. -/
  weekday : Nat
  /-- The day of the year, from zero. -/
  yearDay : Nat
  /-- The seconds from the beginning of 1970. -/
  epoch   : Int
  zone    : Zone

/-- Nanoseconds in a second. -/
def nanosInSecond : Int := 1000000000

/-- Seconds in a day. -/
def secondsInDay : Int := 86400

/-- A moment by its nanoseconds from the beginning of 1970. -/
def Moment.ofNanos (zone : Zone) (n : Int) : Moment :=
  let epoch := n / nanosInSecond
  let here := epoch + zone.ahead
  let days := here / secondsInDay
  let seconds := (here - days * secondsInDay).toNat
  let date := CivilDay.ofDays days
  { date, hour := seconds / 3600, minute := seconds / 60 % 60, second := seconds % 60
    nano := (n - epoch * nanosInSecond).toNat, weekday := ((days + 4) % 7).toNat
    yearDay := (days - CivilDay.toDays ⟨date.year, 1, 1⟩).toNat, epoch, zone }

def weekdayNames : Array String :=
  #["Sunday", "Monday", "Tuesday", "Wednesday", "Thursday", "Friday", "Saturday"]

def monthNames : Array String :=
  #["January", "February", "March", "April", "May", "June", "July", "August", "September", "October",
    "November", "December"]

/-- The first three letters of a name. -/
def shortName (s : String) : String := String.ofList (s.toList.take 3)

/-- The week of a year whose first week has the first of some day of the week in it. -/
def Moment.week (m : Moment) (first : Nat) : Nat :=
  (m.yearDay + 7 - (m.weekday + 7 - first) % 7) / 7

/-- The year and the week to which the Thursday of a week belongs. -/
def Moment.isoWeek (m : Moment) : Int × Nat :=
  let days := m.date.toDays
  let thursday := days - ((m.weekday + 6) % 7 : Nat) + 3
  let year := (CivilDay.ofDays thursday).year
  (year, ((thursday - CivilDay.toDays ⟨year, 1, 1⟩) / 7).toNat + 1)

/-- The hour on a clock of twelve. -/
def Moment.hour12 (m : Moment) : Nat := if m.hour % 12 = 0 then 12 else m.hour % 12

/-! ### Formats -/

/-- What stands between a percent sign and the letter of a conversion. -/
structure Conversion where
  /-- The last flag for the padding. -/
  pad    : Option Char
  upper  : Bool
  turned : Bool
  width  : Option Nat
  colons : Nat

/-- A text filled up to the width. -/
def Conversion.text (c : Conversion) (s : String) : String :=
  let s := if c.upper then s.toUpper else s
  let gap := (c.width.getD 0) - s.length
  String.ofList (List.replicate gap (if c.pad = some '0' || c.pad = some '+' then '0' else ' ')) ++ s

/-- A number of at least some digits, filled up with a character where no flag says otherwise. -/
def Conversion.number (c : Conversion) (digits : Nat) (usual : Char) (n : Int) : String :=
  let text := toString n.natAbs
  let sign := if n < 0 then "-" else if c.pad = some '+' && digits < text.length then "+" else ""
  let width := c.width.getD digits
  let gap := width - sign.length - text.length
  match c.pad.getD usual with
  | '-' => sign ++ text
  | '_' | ' ' => String.ofList (List.replicate gap ' ') ++ sign ++ text
  | _   => sign ++ String.ofList (List.replicate gap '0') ++ text

/-- How far a zone is ahead, with colons between some of its parts. -/
def Conversion.zone (c : Conversion) (zone : Zone) : String :=
  let ahead := zone.ahead.natAbs
  let two (n : Nat) : String := String.ofList (Decimal.digitsOf n 2)
  let (h, m, s) := (two (ahead / 3600), two (ahead / 60 % 60), two (ahead % 60))
  let parts : List String :=
    match c.colons with
    | 0 => [h ++ m]
    | 1 => [h, m]
    | 2 => [h, m, s]
    | _ => if ahead % 60 != 0 then [h, m, s] else if ahead / 60 % 60 != 0 then [h, m] else [h]
  (if zone.ahead < 0 then "-" else "+") ++ ":".intercalate parts

mutual

/-- What a conversion stands for; nothing where its letter is unknown. -/
def Moment.convert? (m : Moment) (c : Conversion) : (depth : Nat) → Char → Option String
  | 0, _ => none
  | depth + 1, letter =>
    let two (n : Nat) : String := c.number 2 '0' n
    let byParts (format : String) : Option String :=
      some (c.text (m.formatAt depth format.toList format.length))
    let named (s : String) : Option String :=
      some ({ c with upper := c.upper || c.turned }.text s)
    match letter with
    | '%' => some (c.text "%")
    | 'n' => some (c.text "\n")
    | 't' => some (c.text "\t")
    | 'a' => named (shortName (weekdayNames.getD m.weekday ""))
    | 'A' => named (weekdayNames.getD m.weekday "")
    | 'b' | 'h' => named (shortName (monthNames.getD (m.date.month - 1) ""))
    | 'B' => named (monthNames.getD (m.date.month - 1) "")
    | 'c' => byParts "%a %b %e %H:%M:%S %Y"
    | 'C' => some (c.number 2 '0' (m.date.year / 100))
    | 'd' => some (two m.date.day)
    | 'D' | 'x' => byParts "%m/%d/%y"
    | 'e' => some (c.number 2 '_' m.date.day)
    | 'F' =>
      let year := { c with pad := some (c.pad.getD '+'), width := c.width.map (· - 6) }.number 4 '0'
        m.date.year
      some (year ++ m.formatAt depth "-%m-%d".toList 6)
    | 'g' => some (c.number 2 '0' (m.isoWeek.1 % 100))
    | 'G' => some (c.number 4 '0' m.isoWeek.1)
    | 'H' => some (two m.hour)
    | 'I' => some (two m.hour12)
    | 'j' => some (c.number 3 '0' (m.yearDay + 1))
    | 'k' => some (c.number 2 '_' m.hour)
    | 'l' => some (c.number 2 '_' m.hour12)
    | 'm' => some (two m.date.month)
    | 'M' => some (two m.minute)
    | 'N' =>
      let places := min (c.width.getD 9) 9
      let n := m.nano / Nat.pow 10 (9 - places)
      if c.pad = some '-' || c.pad = some '_' then
        let text := toString n
        some (if c.pad = some '-' then text
          else text ++ String.ofList (List.replicate (c.width.getD 9 - text.length) ' '))
      else
        some (String.ofList (Decimal.digitsOf n places ++
          List.replicate (c.width.getD 9 - places) '0'))
    | 'p' =>
      let s := if m.hour < 12 then "AM" else "PM"
      some (c.text (if c.turned then s.toLower else s))
    | 'P' => some ({ c with upper := false }.text (if m.hour < 12 then "am" else "pm"))
    | 'q' => some (c.number 1 '0' ((m.date.month - 1) / 3 + 1 : Nat))
    | 'r' => byParts "%I:%M:%S %p"
    | 'R' => byParts "%H:%M"
    | 's' => some (c.number 1 '0' m.epoch)
    | 'S' => some (two m.second)
    | 'T' | 'X' => byParts "%H:%M:%S"
    | 'u' => some (c.number 1 '0' ((m.weekday + 6) % 7 + 1 : Nat))
    | 'U' => some (two (m.week 0))
    | 'V' => some (two m.isoWeek.2)
    | 'w' => some (c.number 1 '0' m.weekday)
    | 'W' => some (two (m.week 1))
    | 'y' => some (c.number 2 '0' (m.date.year % 100))
    | 'Y' => some (c.number 4 '0' m.date.year)
    | 'z' => some (c.text (c.zone m.zone))
    | 'Z' => some (c.text (if c.turned then m.zone.name.toLower else m.zone.name))
    | _   => none
termination_by depth _ => (depth, 0)

/-- A moment by a format. -/
def Moment.formatAt (m : Moment) (depth : Nat) (format : List Char) : (fuel : Nat) → String
  | 0 => String.ofList format
  | fuel + 1 =>
    match format with
    | [] => ""
    | '%' :: rest =>
      let flags := rest.takeWhile fun c => "_-0+^#".contains c
      let more := rest.drop flags.length
      let width := more.takeWhile Char.isDigit
      let more := more.drop width.length
      let more := if more.head? = some 'E' || more.head? = some 'O' then more.drop 1 else more
      let colons := more.takeWhile (· = ':')
      let c : Conversion :=
        { pad := (flags.filter fun c => c != '^' && c != '#').getLast?, upper := flags.contains '^'
          turned := flags.contains '#', colons := colons.length
          width := if width.isEmpty then none else (String.ofList width).toNat? }
      match more.drop colons.length with
      | [] => String.ofList format
      | letter :: after =>
        let found :=
          if !colons.isEmpty && letter != 'z' then none
          else
            match depth with
            | 0         => none
            | depth + 1 => m.convert? c (depth + 1) letter
        match found with
        | some s => s ++ m.formatAt depth after fuel
        | none   =>
          String.ofList (format.take (format.length - after.length)) ++ m.formatAt depth after fuel
    | c :: rest =>
      let plain := (c :: rest).takeWhile (· != '%')
      String.ofList plain ++ m.formatAt depth ((c :: rest).drop plain.length) fuel
termination_by fuel => (depth, fuel + 1)

end

/-- A moment by a format. -/
def Moment.format (m : Moment) (format : String) : String := m.formatAt 3 format.toList format.length

/-! ### Zones -/

/-- The seconds of hours, minutes and seconds with colons between them. -/
def clockSeconds? (cs : List Char) : Option Int :=
  let parts := (String.ofList cs).splitOn ":"
  let numbers := parts.filterMap String.toNat?
  if numbers.length != parts.length then none
  else
    match numbers with
    | [h]       => some (h * 3600)
    | [h, m]    => some (h * 3600 + m * 60)
    | [h, m, s] => some (h * 3600 + m * 60 + s)
    | _         => none

/-- The zone that a text means: a name, and how far it is behind. A name alone stands for no zone that
is known, and is the name of the universal time. -/
def Zone.ofText (s : String) : Zone :=
  let cs := if s.startsWith ":" then s.toList.drop 1 else s.toList
  let (name, rest) :=
    if cs.head? = some '<' then
      let inner := (cs.drop 1).takeWhile (· != '>')
      (inner, cs.drop (inner.length + 2))
    else
      let name := cs.takeWhile Char.isAlpha
      (name, cs.drop name.length)
  let (negative, digits) := takeSign rest
  let digits := digits.takeWhile fun c => c.isDigit || c = ':'
  if cs.isEmpty then ⟨"Universal", 0⟩
  else if name.length < 3 then .universal
  else
    match clockSeconds? digits with
    | some n => ⟨String.ofList name, if negative then n else -n⟩
    | none   => ⟨if rest.isEmpty || rest.head? = some '/' then String.ofList name else "UTC", 0⟩

end BoardConsole.Shell
