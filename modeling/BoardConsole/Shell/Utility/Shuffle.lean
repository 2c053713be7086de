import BoardConsole.Shell.Utility.Text

/-!
# Shell — Items in any order

`shuf` prints its items in an order that it may choose; the one chosen here is that of the input.
-/

namespace BoardConsole.Shell.Utility

open Act

def shufUsage : Usage :=
  { program := "shuf", letters := "ei:n:o:rzρ:", misuse := 1
    names := [("echo", 'e'), ("input-range", 'i'), ("head-count", 'n'), ("output", 'o'),
      ("repeat", 'r'), ("zero-terminated", 'z'), ("random-source", 'ρ')] }

/-- A count without a sign. -/
def plainCount? (s : String) : Option Nat :=
  let digits := (if s.startsWith "+" then s.drop 1 else s.drop 0).toString
  if digits != "" && digits.all Char.isDigit then digits.toNat? else none

/-- The numbers of a range. -/
def rangeItems? (s : String) : Option (List String) := do
  let low := String.ofList (s.toList.takeWhile (· != '-'))
  let least ← plainCount? low
  let most ← plainCount? (s.drop (low.length + 1)).toString
  if least ≤ most + 1 then
    return (List.range (most + 1 - least)).map fun k => toString (least + k)
  else none

/-- The items that are to be printed, with the words for what cannot be read. -/
def shufItems (a : Arguments) : Act (Except String (List String)) := do
  if a.has 'e' then return .ok a.rest
  else if let some range := a.last? 'i' then
    return match rangeItems? range with
      | some items => .ok items
      | none       => .error ("invalid input range: " ++ cited range)
  else
    let name := a.rest.headD "-"
    return match ← readInput name with
      | .error reason =>
        .error (if reason = PathFault.isADirectory.reason then "read error: " ++ reason
          else shownName name ++ ": " ++ reason)
      | .ok text =>
        .ok ((recordsOf (if a.has 'z' then "\x00" else "\n") text).map fun line =>
          if line.endsWith (if a.has 'z' then "\x00" else "\n") then (line.dropEnd 1).toString else line)

/-- Prints items in some order. -/
def shuf : Builtin := fun _ args => shufUsage.run args fun a => do
  if a.has 'e' && a.has 'i' then return ← shufUsage.refuse "cannot combine -e and -i options"
  let operands := if a.has 'i' then a.rest else a.rest.drop 1
  if let (false, extra :: _) := (a.has 'e', operands) then
    return ← shufUsage.refuse ("extra operand " ++ cited extra)
  let counts := (a.options.filter (·.1 = 'n')).map (·.2)
  if let some wrong := counts.find? fun s => (plainCount? s).isNone then
    shufUsage.complain ("invalid line count: " ++ cited wrong)
    return 1
  let limit := (counts.filterMap plainCount?).min?
  let read : Except String (List String) ← if limit = some 0 then pure (.ok []) else shufItems a
  match read with
  | .error message =>
    shufUsage.complain message
    return 1
  | .ok items =>
    let count := limit.getD items.length
    let reach := (← world).reach
    if a.has 'r' && items.isEmpty && limit != some 0 then
      shufUsage.complain "no lines to repeat"
      return 1
    let chosen :=
      if a.has 'r' then List.replicate (min (limit.getD (reach + 1)) (reach + 1)) (items.headD "")
      else items.take count
    let ending := if a.has 'z' then "\x00" else "\n"
    let text := String.join (chosen.map (· ++ ending))
    match a.last? 'o' with
    | none => printChecked "shuf" text
    | some name =>
      match ← writeFile name text false with
      | .ok () => return 0
      | .error reason =>
        shufUsage.complain (shownName name ++ ": " ++ reason)
        return 1

end BoardConsole.Shell.Utility
