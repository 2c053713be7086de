import BoardConsole.Shell.Calendar

/-!
# Shell — Moments in words

A moment is told by a day, a time of day, a day of the week, a zone and distances from another moment,
in any order. What is not told is that of the present moment, but the time of day is midnight where a
day is told without one.
-/

namespace BoardConsole.Shell.Phrase

/-! ### Tokens -/

/-- The parts of a moment that distances are counted in. -/
inductive Span where
  | years (n : Int)
  | months (n : Int)
  | days (n : Int)
  | seconds (n : Int)
deriving DecidableEq

/-- A number as it is written: its value and how many digits it has. -/
structure Digits where
  value    : Int
  count    : Nat
  negative : Bool

/-- A token of a phrase. -/
inductive Token where
  | number (d : Digits)
  | signed (d : Digits)
  /-- A number of nanoseconds that is written with a point. -/
  | decimal (hasSign : Bool) (nanos : Int) (d : Digits)
  | mark (c : Char)
  | month (n : Nat)
  | weekday (n : Nat)
  | ordinal (n : Int)
  | span (s : Span)
  | shift (days : Int)
  | ago (sign : Int)
  | half (afternoon : Bool)
  /-- A zone and how many minutes it is ahead. -/
  | zone (minutes : Int)
  | summerZone (minutes : Int)
  | summer
  | letterT
  | unknown

/-- Zones by their names, and how many minutes they are ahead. -/
def zoneNames : List (String × Int) :=
  [("GMT", 0), ("UT", 0), ("UTC", 0), ("WET", 0), ("ART", -180), ("BRT", -180), ("NST", -210),
   ("AST", -240), ("CLT", -240), ("EST", -300), ("CST", -360), ("MST", -420), ("PST", -480),
   ("AKST", -540), ("HST", -600), ("HAST", -600), ("SST", -720), ("WAT", 60), ("CET", 60),
   ("MET", 60), ("MEZ", 60), ("SAST", 120), ("EET", 120), ("CAT", 120), ("EAT", 180), ("MSK", 180),
   ("IST", 330), ("SGT", 480), ("KST", 540), ("JST", 540), ("GST", 600), ("NZST", 720)]

/-- Zones of the summer, by their names, and how many minutes they are ahead in the winter. -/
def summerZoneNames : List (String × Int) :=
  [("WEST", 0), ("BST", 0), ("BRST", -180), ("NDT", -210), ("ADT", -240), ("CLST", -240),
   ("EDT", -300), ("CDT", -360), ("MDT", -420), ("PDT", -480), ("AKDT", -540), ("HADT", -600),
   ("CEST", 60), ("MEST", 60), ("MESZ", 60), ("EEST", 120), ("MSD", 180), ("NZDT", 720)]

/-- Names of spans. -/
def spanNames : List (String × Span) :=
  [("YEAR", .years 1), ("MONTH", .months 1), ("FORTNIGHT", .days 14), ("WEEK", .days 7),
   ("DAY", .days 1), ("HOUR", .seconds 3600), ("MINUTE", .seconds 60), ("MIN", .seconds 60),
   ("SECOND", .seconds 1), ("SEC", .seconds 1)]

/-- Words that count. -/
def ordinalNames : List (String × Int) :=
  [("LAST", -1), ("THIS", 0), ("NEXT", 1), ("FIRST", 1), ("THIRD", 3), ("FOURTH", 4), ("FIFTH", 5),
   ("SIXTH", 6), ("SEVENTH", 7), ("EIGHTH", 8), ("NINTH", 9), ("TENTH", 10), ("ELEVENTH", 11),
   ("TWELFTH", 12)]

/-- Words for whole days. -/
def shiftNames : List (String × Int) :=
  [("TOMORROW", 1), ("YESTERDAY", -1), ("TODAY", 0), ("NOW", 0)]

/-- Short names of days of the week beside the first three letters. -/
def weekdayShorts : List (String × Nat) :=
  [("TUES", 2), ("WEDNES", 3), ("THUR", 4), ("THURS", 4)]

/-- How many minutes the zone of a letter is ahead. -/
def letterZone? (c : Char) : Option Int :=
  let hours : Option Int :=
    if 'A' ≤ c && c ≤ 'I' then some (c.toNat - 64)
    else if 'K' ≤ c && c ≤ 'M' then some (c.toNat - 65)
    else if 'N' ≤ c && c ≤ 'Y' then some (77 - (c.toNat : Int))
    else if c = 'Z' then some 0
    else none
  hours.map (· * 60)

/-- What a word means, without its points. -/
def wordToken? (zone : Zone) (word : String) : Option Token :=
  let isShort : Bool := word.length = 3 || (word.length = 4 && word.endsWith ".")
  let matches_ (name : String) : Bool :=
    if isShort then (shortName name).toUpper = shortName word else name.toUpper = word
  let single : Option Token :=
    match word.toList with
    | ['T'] => some .letterT
    | ['J'] => some (.zone (zone.ahead / 60))
    | [c]   => (letterZone? c).map .zone
    | _     => none
  let trimmed := if word.endsWith "S" then String.ofList word.toList.dropLast else word
  let halves : List (String × Bool) := [("AM", false), ("A.M.", false), ("PM", true), ("P.M.", true)]
  [(halves.lookup word).map .half,
   (monthNames.findIdx? matches_).map fun n => .month (n + 1),
   if word = "SEPT" then some (.month 9) else none,
   (weekdayNames.findIdx? matches_).map .weekday,
   (weekdayShorts.lookup word).map .weekday,
   if word = zone.name.toUpper then some (.zone (zone.ahead / 60)) else none,
   (zoneNames.lookup word).map .zone,
   (summerZoneNames.lookup word).map .summerZone,
   if word = "DST" then some .summer else none,
   (spanNames.lookup word).map .span,
   (spanNames.lookup trimmed).map .span,
   (shiftNames.lookup word).map .shift,
   (ordinalNames.lookup word).map .ordinal,
   if word = "AGO" then some (.ago (-1)) else none,
   if word = "HENCE" then some (.ago 1) else none,
   single].findSome? id

/-- What a word means. -/
def wordToken (zone : Zone) (word : String) : Token :=
  match wordToken? zone word with
  | some t => t
  | none   =>
    let plain := String.ofList (word.toList.filter (· != '.'))
    if plain = word then .unknown else (wordToken? zone plain).getD .unknown

/-- What follows a comment that has begun some levels deep. -/
def afterComment : (depth : Nat) → List Char → List Char
  | 0, cs => cs
  | _, [] => []
  | depth + 1, c :: cs =>
    if c = '(' then afterComment (depth + 2) cs
    else if c = ')' then afterComment depth cs
    else afterComment (depth + 1) cs
termination_by _ cs => cs.length

/-- The tokens of a phrase. -/
def tokens (zone : Zone) : (fuel : Nat) → List Char → List Token
  | 0, _ | _, [] => []
  | fuel + 1, c :: cs =>
    if c = ' ' || ('\t' ≤ c && c ≤ '\r') then tokens zone fuel cs
    else if c.isDigit || c = '-' || c = '+' then
      let hasSign : Bool := c = '-' || c = '+'
      let rest := if hasSign then cs.dropWhile fun c => c = ' ' || ('\t' ≤ c && c ≤ '\r') else c :: cs
      let digits := rest.takeWhile Char.isDigit
      if digits.isEmpty then tokens zone fuel rest
      else
        let after := rest.drop digits.length
        let n : Int := Arithmetic.valueOf 10 digits
        let value := if c = '-' then -n else n
        let d : Digits := ⟨value, digits.length, c = '-'⟩
        match after with
        | p :: q :: more =>
          if (p = '.' || p = ',') && q.isDigit then
            let fraction := (q :: more).takeWhile Char.isDigit
            let places := (fraction.take 9) ++ List.replicate (9 - fraction.length) '0'
            let below : Int := Arithmetic.valueOf 10 places
            -- What is below a billionth counts where the number is negative.
            let extra : Int := if c = '-' && (fraction.drop 9).any (· != '0') then 1 else 0
            let nanos := n * nanosInSecond + below + extra
            .decimal hasSign (if c = '-' then -nanos else nanos) d ::
              tokens zone fuel ((q :: more).drop fraction.length)
          else (if hasSign then .signed d else .number d) :: tokens zone fuel after
        | _ => (if hasSign then .signed d else .number d) :: tokens zone fuel after
    else if c.isAlpha then
      let word := (c :: cs).takeWhile fun c => c.isAlpha || c = '.'
      wordToken zone (String.ofList word).toUpper :: tokens zone fuel ((c :: cs).drop word.length)
    else if c = '(' then tokens zone fuel (afterComment 1 cs)
    else .mark c :: tokens zone fuel cs

/-! ### What is told -/

/-- What a phrase tells. -/
structure Told where
  year        : Option (Int × Nat)
  month       : Int
  day         : Int
  hour        : Int
  minute      : Int
  /-- Seconds in nanoseconds. -/
  nanos       : Int
  afternoon   : Option Bool
  weekday     : Option (Int × Nat)
  zoneMinutes : Int
  dates       : Nat
  times       : Nat
  weekdays    : Nat
  zones       : Nat
  distances   : Nat
  years       : Int
  months      : Int
  days        : Int
  /-- A distance in nanoseconds. -/
  further     : Int

/-- The phrase goes on with what tells a distance. -/
def Told.move (t : Told) (s : Span) (times : Int) : Told :=
  let t := { t with distances := t.distances + 1 }
  match s with
  | .years n   => { t with years := t.years + n * times }
  | .months n  => { t with months := t.months + n * times }
  | .days n    => { t with days := t.days + n * times }
  | .seconds n => { t with further := t.further + n * times * nanosInSecond }

/-- The minutes that a zone is ahead by its digits, with minutes after a colon or not. -/
def aheadMinutes? (d : Digits) (minutes : Option Int) : Option Int :=
  let n := d.value.natAbs
  let whole : Int := match minutes with
    | some m => n * 60 + m
    | none   => if d.count ≤ 2 then n * 60 else (n / 100 * 60 + n % 100 : Nat)
  if 24 * 60 < whole then none else some (if d.negative then -whole else whole)

/-- Takes a zone that is written in digits, where one follows. -/
def takeZone (t : Told) : List Token → Option (Told × List Token)
  | .signed _ :: .span _ :: _ => none
  | .signed d :: .mark ':' :: .number m :: rest => do
    let minutes ← aheadMinutes? d (some m.value)
    return ({ t with zones := t.zones + 1, zoneMinutes := minutes }, rest)
  | .signed d :: rest => do
    let minutes ← aheadMinutes? d none
    return ({ t with zones := t.zones + 1, zoneMinutes := minutes }, rest)
  | rest => some (t, rest)

/-- Takes a zone behind a time; what is left may belong to a distance, so that the number is not one of
that. -/
def takeZoneOfTime (t : Told) : List Token → Option (Told × List Token)
  | .signed d :: .span s :: rest => do
    let minutes ← aheadMinutes? d none
    return ({ t with zones := t.zones + 1, zoneMinutes := minutes }, .span s :: rest)
  | rest => takeZone t rest

/-- A time of day. -/
def Told.at_ (t : Told) (hour minute nanos : Int) (afternoon : Option Bool) : Told :=
  { t with times := t.times + 1, hour, minute, nanos, afternoon }

/-- Takes a time of day that has a colon. -/
def takeTime? (t : Told) : List Token → Option (Told × List Token)
  | .number h :: .mark ':' :: .number m :: .mark ':' :: .number s :: .half p :: rest =>
    some (t.at_ h.value m.value (s.value * nanosInSecond) (some p), rest)
  | .number h :: .mark ':' :: .number m :: .mark ':' :: .decimal false n _ :: .half p :: rest =>
    some (t.at_ h.value m.value n (some p), rest)
  | .number h :: .mark ':' :: .number m :: .half p :: rest =>
    some (t.at_ h.value m.value 0 (some p), rest)
  | .number h :: .mark ':' :: .number m :: .mark ':' :: .number s :: rest =>
    takeZoneOfTime (t.at_ h.value m.value (s.value * nanosInSecond) none) rest
  | .number h :: .mark ':' :: .number m :: .mark ':' :: .decimal false n _ :: rest =>
    takeZoneOfTime (t.at_ h.value m.value n none) rest
  | .number h :: .mark ':' :: .number m :: rest =>
    takeZoneOfTime (t.at_ h.value m.value 0 none) rest
  | _ => none

/-- A day of the calendar. -/
def Told.on (t : Told) (year : Option (Int × Nat)) (month day : Int) : Told :=
  { t with dates := t.dates + 1, year := year.or t.year, month, day }

/-- A number alone: a year behind a day, a day in digits, or a time. -/
def Told.bare (t : Told) (d : Digits) : Told :=
  if t.dates != 0 && t.year.isNone && t.distances = 0 && (t.times != 0 || 2 < d.count) then
    { t with year := some (d.value, d.count) }
  else if 4 < d.count then
    t.on (some (d.value / 10000, d.count - 4)) (d.value / 100 % 100) (d.value % 100)
  else if d.count ≤ 2 then t.at_ d.value 0 0 none
  else t.at_ (d.value / 100) (d.value % 100) 0 none

/-- The sign that a word behind a distance gives it. -/
def takeAgo : List Token → Int × List Token
  | .ago s :: rest => (s, rest)
  | rest           => (1, rest)

/-- Takes the next item of a phrase. -/
def takeItem (t : Told) (ts : List Token) : Option (Told × List Token) :=
  let distance (s : Span) (n : Int) (rest : List Token) : Option (Told × List Token) :=
    let (sign, rest) := takeAgo rest
    some (t.move s (n * sign), rest)
  let year (d : Digits) : Option (Int × Nat) := some (d.value, d.count)
  match ts with
  | .number h :: .half p :: rest => some (t.at_ h.value 0 0 (some p), rest)
  | .number _ :: .mark ':' :: _ => takeTime? t ts
  | .number a :: .mark '/' :: .number b :: .mark '/' :: .number c :: rest =>
    if 4 ≤ a.count then some (t.on (year a) b.value c.value, rest)
    else some (t.on (year c) a.value b.value, rest)
  | .number a :: .mark '/' :: .number b :: rest => some (t.on none a.value b.value, rest)
  | .number y :: .signed m :: .signed d :: rest =>
    let t := t.on (year y) (-m.value) (-d.value)
    match rest with
    | .letterT :: .number h :: more =>
      match more with
      | .mark ':' :: _   => takeTime? t (.number h :: more)
      | .signed _ :: _   => takeZoneOfTime (t.at_ h.value 0 0 none) more
      | _                => none
    | _ => some (t, rest)
  | .number d :: .month m :: .signed y :: rest =>
    some (t.on (some (-y.value, y.count)) m d.value, rest)
  | .number d :: .month m :: .number y :: .mark ':' :: rest =>
    some (t.on none m d.value, .number y :: .mark ':' :: rest)
  | .number d :: .month m :: .number y :: rest => some (t.on (year y) m d.value, rest)
  | .number d :: .month m :: rest => some (t.on none m d.value, rest)
  | .number n :: .weekday d :: rest =>
    some ({ t with weekdays := t.weekdays + 1, weekday := some (n.value, d) }, rest)
  | .number n :: .span s :: rest => distance s n.value rest
  | .number n :: .signed m :: .span s :: rest =>
    let (sign, rest) := takeAgo rest
    some ((t.bare n).move s (m.value * sign), rest)
  | .number h :: .signed z :: rest => takeZone (t.at_ h.value 0 0 none) (.signed z :: rest)
  | .number n :: rest => some (t.bare n, rest)
  | .month m :: .signed d :: .signed y :: rest =>
    some (t.on (some (-y.value, y.count)) m (-d.value), rest)
  | .month m :: .number d :: .mark ',' :: .number y :: rest => some (t.on (year y) m d.value, rest)
  | .month m :: .number d :: rest => some (t.on none m d.value, rest)
  | .weekday d :: .mark ',' :: rest | .weekday d :: rest =>
    some ({ t with weekdays := t.weekdays + 1, weekday := some (0, d) }, rest)
  | .ordinal n :: .weekday d :: rest =>
    some ({ t with weekdays := t.weekdays + 1, weekday := some (n, d) }, rest)
  | .ordinal n :: .span s :: rest => distance s n rest
  | .span s :: rest => distance s 1 rest
  | .signed n :: .span s :: rest => distance s n.value rest
  | .decimal _ n _ :: .span (.seconds 1) :: rest =>
    let (sign, rest) := takeAgo rest
    some ({ t with distances := t.distances + 1, further := t.further + n * sign }, rest)
  | .shift n :: rest => some ({ t with distances := t.distances + 1, days := t.days + n }, rest)
  | .zone m :: .summer :: rest =>
    some ({ t with zones := t.zones + 1, zoneMinutes := m + 60 }, rest)
  | .zone m :: .signed d :: .span s :: rest =>
    let (sign, rest) := takeAgo rest
    some ({ t with zones := t.zones + 1, zoneMinutes := m }.move s (d.value * sign), rest)
  | .zone m :: .signed d :: rest => do
    let (t', rest) ← takeZone t (.signed d :: rest)
    return ({ t' with zoneMinutes := m + t'.zoneMinutes }, rest)
  | .zone m :: rest => some ({ t with zones := t.zones + 1, zoneMinutes := m }, rest)
  | .letterT :: rest => some ({ t with zones := t.zones + 1, zoneMinutes := -7 * 60 }, rest)
  | .summerZone m :: rest => some ({ t with zones := t.zones + 1, zoneMinutes := m + 60 }, rest)
  | _ => none

/-- Takes all items of a phrase. -/
def takeAll : (fuel : Nat) → Told → List Token → Option Told
  | _, t, [] => some t
  | 0, _, _ => none
  | fuel + 1, t, ts => do
    let (t, rest) ← takeItem t ts
    takeAll fuel t rest

/-! ### The moment that is meant -/

/-- A day by a month that may lie outside the year and a day that may lie outside the month. -/
def daysOf (year month day : Int) : Int :=
  let months := year * 12 + (month - 1)
  CivilDay.toDays ⟨months / 12, (months % 12).toNat + 1, 1⟩ + day - 1

/-- The year that digits mean: two of them stand for one near the present. -/
def fullYear (y : Int × Nat) : Int :=
  if 0 ≤ y.1 && y.2 ≤ 2 then (if y.1 < 69 then y.1 + 2000 else y.1 + 1900) else y.1.natAbs

/-- The hour on a clock of a whole day; nothing where there is no such. -/
def wholeHour? (hour : Int) : Option Bool → Option Int
  | none           => if 0 ≤ hour && hour < 24 then some hour else none
  | some afternoon =>
    if 1 ≤ hour && hour ≤ 12 then some (hour % 12 + (if afternoon then 12 else 0)) else none

/-- The nanoseconds from the beginning of 1970 of what is told, at a present moment. -/
def Told.nanos? (t : Told) (now : Moment) : Option Int := do
  if 1 < t.dates || 1 < t.times || 1 < t.weekdays || 1 < t.zones then none
  let year := match t.year with
    | some y => fullYear y
    | none   => now.date.year
  let keepsTime : Bool := t.times != 0 || (t.distances != 0 && t.dates = 0 && t.weekdays = 0)
  let hour ← if keepsTime then wholeHour? t.hour t.afternoon else some 0
  let minute := if keepsTime then t.minute else 0
  let nanos := if keepsTime then t.nanos else 0
  if minute < 0 || 59 < minute || nanos < 0 || 60 * nanosInSecond ≤ nanos then none
  if t.month < 1 || 12 < t.month || t.day < 1 then none
  let days := daysOf year t.month t.day
  if (CivilDay.ofDays days).month != t.month.toNat then none
  -- A day of the week is looked for from the day on that is told.
  let days := match t.weekday, t.dates with
    | some (n, d), 0 =>
      let own := (days + 4) % 7
      let ahead := ((d : Int) - own + 7) % 7
      days + ahead + 7 * (n - (if 0 < n && own != d then 1 else 0))
    | _, _ => days
  let days :=
    if t.years = 0 && t.months = 0 && t.days = 0 then days
    else
      let c := CivilDay.ofDays days
      daysOf (c.year + t.years) (c.month + t.months) (c.day + t.days)
  let ahead := if t.zones != 0 then t.zoneMinutes * 60 else now.zone.ahead
  let seconds := days * secondsInDay + hour * 3600 + minute * 60 - ahead
  return seconds * nanosInSecond + nanos + t.further

/-- The nanoseconds of a number of seconds. -/
def stamp? (cs : List Char) : Option Int :=
  let blank (c : Char) : Bool := c = ' ' || ('\t' ≤ c && c ≤ '\r')
  let cs := cs.dropWhile blank
  let sign := cs.takeWhile fun c => c = '-' || c = '+' || blank c
  let rest := cs.drop sign.length
  let negative := sign.head? = some '-'
  let digits := rest.takeWhile Char.isDigit
  let after := (rest.drop digits.length)
  let fraction := match after with
    | p :: more => if p = '.' || p = ',' then more.takeWhile Char.isDigit else []
    | []        => []
  let after := (if fraction.isEmpty then after else after.drop (fraction.length + 1)).dropWhile blank
  if digits.isEmpty || !after.isEmpty || 1 < (sign.filter (!blank ·)).length then none
  else
    let places := fraction.take 9 ++ List.replicate (9 - fraction.length) '0'
    let n : Int := Arithmetic.valueOf 10 digits * nanosInSecond + Arithmetic.valueOf 10 places
    some (if negative then -n else n)

/-- The nanoseconds from the beginning of 1970 that a phrase means at a present moment. It may begin
with a zone of its own. -/
def nanos? (now : Moment) (phrase : String) : Option Int :=
  let cs := phrase.toList.dropWhile fun c => c = ' ' || c = '\t'
  let (now, cs) :=
    if "TZ=\"".toList.isPrefixOf cs then
      let name := (cs.drop 4).takeWhile (· != '"')
      let zone := Zone.ofText (String.ofList name)
      (Moment.ofNanos zone (now.epoch * nanosInSecond + now.nano),
        (cs.drop (5 + name.length)).dropWhile fun c => c = ' ')
    else (now, cs)
  match cs with
  | '@' :: rest => stamp? rest
  | cs =>
    let start : Told :=
      { year := none, month := now.date.month, day := now.date.day, hour := now.hour
        minute := now.minute, nanos := now.second * nanosInSecond + now.nano, afternoon := none
        weekday := none, zoneMinutes := 0, dates := 0, times := 0, weekdays := 0, zones := 0
        distances := 0, years := 0, months := 0, days := 0, further := 0 }
    let ts := tokens now.zone (cs.length + 1) cs
    (takeAll (ts.length + 1) start ts).bind fun t => t.nanos? now

end BoardConsole.Shell.Phrase
