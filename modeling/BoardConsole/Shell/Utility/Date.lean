import BoardConsole.Shell.Calendar.Phrase
import BoardConsole.Shell.Utility.Paths

/-!
# Shell — The time of day

`date` prints the present moment, or those that phrases, files and numbers of seconds mean, by a format.
-/

namespace BoardConsole.Shell.Utility

open Act

/-- The present moment in nanoseconds from the beginning of 1970. All that was changed in files was
changed before it. -/
def presentNanos : Act Int := do
  let w ← world
  return firstMoment + nanosInSecond + w.time

/-- The zone in which moments are shown. -/
def currentZone : Act Zone := do
  match ← variableOf? "TZ" with
  | some ⟨some text, true, _⟩ => return Zone.ofText text
  | _                         => return .universal

/-- The present moment. -/
def presentMoment : Act Moment := return Moment.ofNanos (← currentZone) (← presentNanos)

def dateUsage : Usage :=
  { program := "date", letters := "d:f:I::r:Rs:uπ:δρ", misuse := 1
    names := [("date", 'd'), ("debug", 'δ'), ("file", 'f'), ("iso-8601", 'I'), ("reference", 'r'),
      ("rfc-email", 'R'), ("rfc-822", 'R'), ("rfc-2822", 'R'), ("rfc-3339", 'π'), ("set", 's'),
      ("utc", 'u'), ("universal", 'u'), ("uct", 'u'), ("resolution", 'ρ')] }

/-- The formats of the international standard, by how exact they are. -/
def exactFormats : List (String × String) :=
  [("hours", "%Y-%m-%dT%H%:z"), ("minutes", "%Y-%m-%dT%H:%M%:z"), ("date", "%Y-%m-%d"),
   ("seconds", "%Y-%m-%dT%H:%M:%S%:z"), ("ns", "%Y-%m-%dT%H:%M:%S,%N%:z")]

/-- The formats of the standard for the network, by how exact they are. -/
def networkFormats : List (String × String) :=
  [("date", "%Y-%m-%d"), ("seconds", "%Y-%m-%d %H:%M:%S%:z"), ("ns", "%Y-%m-%d %H:%M:%S.%N%:z")]

/-- The format that is used if none is given. -/
def usualFormat : String := "%a %b %e %H:%M:%S %Z %Y"

/-- The formats that options ask for, or the status of a word that is not known. -/
def dateFormats (a : Arguments) : Act (Except Nat (List String)) := do
  let mut found := []
  for (letter, word) in a.options do
    if letter = 'R' then found := found ++ ["%a, %d %b %Y %H:%M:%S %z"]
    else if letter = 'I' then
      match wordMeant? exactFormats (if word = "" then "date" else word) with
      | some f => found := found ++ [f]
      | none   => return .error (← refuseWordOf dateUsage "--iso-8601" word (exactFormats.map (·.1)))
    else if letter = 'π' then
      match wordMeant? networkFormats word with
      | some f => found := found ++ [f]
      | none   => return .error (← refuseWordOf dateUsage "--rfc-3339" word (networkFormats.map (·.1)))
    else if letter = 'ρ' then found := found ++ ["%s.%N"]
  return .ok found

/-- The moments to print, or what is said of a phrase that means none. -/
def datePhrases (zone : Zone) (now : Moment) (phrases : List String) : List (Except String Int) :=
  let _ := zone
  phrases.map fun s =>
    match Phrase.nanos? now s with
    | some n => .ok n
    | none   => .error ("invalid date " ++ cited s)

/-- Prints moments. -/
def date : Builtin := fun _ args => dateUsage.run args fun a => do
  match ← dateFormats a with
  | .error status => return status
  | .ok formats =>
    let zone ← if a.has 'u' then pure Zone.universal else currentZone
    let now := Moment.ofNanos zone (← presentNanos)
    let sources := (['d', 'f', 'r'].filter a.has).length
    if 1 < sources then
      return ← dateUsage.refuse
        "the options to specify dates for printing are mutually exclusive"
    if 0 < sources && a.has 's' then
      return ← dateUsage.refuse "the options to print and set the time may not be used together"
    if 1 < formats.length then
      dateUsage.complain "multiple output formats specified"
      return 1
    if let extra :: _ := a.rest.drop 1 then
      return ← dateUsage.refuse ("extra operand " ++ cited extra)
    let operand := a.rest.head?
    let isFormat := operand.any (·.startsWith "+")
    if let some s := operand then
      if isFormat && !formats.isEmpty then
        dateUsage.complain "multiple output formats specified"
        return 1
      if !isFormat && (0 < sources || a.has 's') then
        return ← dateUsage.refuse ("the argument " ++ cited s ++ " lacks a leading '+';\n" ++
          "when using an option to specify date(s), any non-option\n" ++
          "argument must be a format string beginning with '+'")
      if !isFormat then
        -- An operand without a plus would set the time, which nobody may do.
        let good := s.toList.all fun c => c.isDigit || c = '.'
        if good && (s.length = 8 || s.length = 10 || s.length = 12) then
          dateUsage.complain "cannot set date: Operation not permitted"
          print (now.format usualFormat ++ "\n")
        else dateUsage.complain ("invalid date " ++ cited s)
        return 1
    let format := if isFormat then String.ofList ((operand.getD "").toList.drop 1)
      else formats.headD usualFormat
    let moments : Except String (List (Except String Int)) ← match a.last? 'd', a.last? 'f', a.last? 'r' with
      | some s, _, _ => pure (.ok (datePhrases zone now [s]))
      | _, some name, _ => do
        match ← readInput name with
        | .ok text      => pure (.ok (datePhrases zone now (linesOf text)))
        | .error reason => pure (.error (shownName name ++ ": " ++ reason))
      | _, _, some name => do
        match ← resolve true name with
        | .error fault => pure (.error (name ++ ": " ++ fault.reason))
        | .ok path =>
          let v ← volume
          if (kindAt? v path).isNone then pure (.error (name ++ ": " ++ PathFault.missing.reason))
          else pure (.ok [.ok (changedAt v path)])
      | none, none, none => do
        match a.last? 's' with
        | none => pure (.ok [.ok (← presentNanos)])
        | some s =>
          let found := datePhrases zone now [s]
          if found.any (·.toOption.isSome) then
            dateUsage.complain "cannot set date: Operation not permitted"
          pure (.ok found)
    match moments with
    | .error fault =>
      dateUsage.complain fault
      return 1
    | .ok moments =>
      let mut failed := a.has 's'
      let mut lines := []
      for m in moments do
        match m with
        | .ok n => lines := (Moment.ofNanos zone n).format format :: lines
        | .error fault =>
          dateUsage.complain fault
          failed := true
      finish "date" (unlines lines.reverse) failed

end BoardConsole.Shell.Utility
