import BoardConsole.Shell.Utility.Paths

/-!
# Shell — Comparing inputs

Where two inputs differ first, or in which bytes they do.
-/

namespace BoardConsole.Shell.Utility

open Act

def cmpUsage : Usage :=
  { program := "cmp", letters := "bci:ln:sv", misuse := 2, named := true
    names := [("silent", 's'), ("quiet", 's'), ("verbose", 'l'), ("bytes", 'n'),
      ("ignore-initial", 'i'), ("print-bytes", 'b'), ("print-chars", 'c')] }

/-- The number of the first place where two texts differ, the lines before it, and what stands there;
nothing where one begins the other. -/
def firstDifference : (byte line : Nat) → List Char → List Char → Option (Nat × Nat × Char × Char)
  | byte, line, a :: left, b :: right =>
    if a = b then firstDifference (byte + 1) (if a = '\n' then line + 1 else line) left right
    else some (byte, line, a, b)
  | _, _, _, _ => none

/-- A byte as octal digits. -/
def octalByte (c : Char) : String :=
  let digits := String.ofList (Nat.toDigits 8 c.toNat)
  repeated (3 - digits.length) ' ' ++ digits

/-- The lines that show all bytes in which two texts differ. -/
def differingBytes (width : Nat) (shows : Bool) (left right : List Char) : List String :=
  ((left.zip right).zipIdx 1).filterMap fun ((x, y), n) =>
    if x = y then none
    else
      let digits := toString n
      let shown (c : Char) : String := if shows then " " ++ visible true c else ""
      let first := shown x
      let gap := if shows then repeated (5 - first.length) ' ' else ""
      some (repeated (width - digits.length) ' ' ++ digits ++ " " ++ octalByte x ++ first ++ gap ++
        " " ++ octalByte y ++ shown y)

/-- How many bytes of both inputs are skipped, or the part that does not say it. -/
def skippedBytes (s : String) : Except String (Nat × Nat) :=
  let value (part rest : String) : Except String Nat :=
    match sizeValue? part with
    | some n => .ok n
    | none   => .error rest
  match s.splitOn ":" with
  | [both] => (value both s).map fun n => (n, n)
  | first :: rest => do
    let rest := ":".intercalate rest
    return (← value first s, ← value rest rest)
  | [] => .error s

/-- The text of an input without what is skipped. -/
def comparedText (name : String) : Act (Except String String) := do
  if name = "-" then return (← peekAll? 0).mapError (·.reason) else readFile name

/-- Compares two inputs byte by byte. -/
def cmp : Builtin := fun _ args => cmpUsage.run args fun a => do
  if a.has 'l' && a.has 's' then
    return ← cmpUsage.refuse "options -l and -s are incompatible"
  for (letter, value) in a.options do
    if letter = 'n' && (sizeValue? value).isNone then
      return ← cmpUsage.refuse ("invalid --bytes value " ++ quoted value)
    if letter = 'i' then
      match skippedBytes value with
      | .error part => return ← cmpUsage.refuse ("invalid --ignore-initial value " ++ quoted part)
      | .ok _       => pure ()
  match a.rest with
  | []      => cmpUsage.refuse ("missing operand after " ++ quoted ((args.getLast?).getD "cmp"))
  | _ :: _ :: _ :: _ :: extra :: _ => cmpUsage.refuse ("extra operand " ++ quoted extra)
  | first :: rest =>
    let second := rest.headD "-"
    let (firstSkip, secondSkip) := ((a.last? 'i').bind fun s => (skippedBytes s).toOption).getD (0, 0)
    let mut skips := #[firstSkip, secondSkip]
    for (s, place) in (rest.drop 1).zipIdx do
      match sizeValue? s with
      | some n => skips := skips.modify place (max n)
      | none   => return ← cmpUsage.refuse ("invalid --ignore-initial value " ++ quoted s)
    let same : Bool := match ← look true first, ← look true second with
      | .ok (_, p), .ok (_, q) => p = q && first != "-" && second != "-"
      | _, _                   => first = "-" && second = "-"
    if same && skips[0]! = skips[1]! then return 0
    let complainOf (name reason : String) : Act Nat := do
      if !a.has 's' || reason != PathFault.missing.reason then
        cmpUsage.complain (name ++ ": " ++ reason)
      return 2
    match ← comparedText first with
    | .error reason => complainOf first reason
    | .ok left =>
      match ← comparedText second with
      | .error reason => complainOf second reason
      | .ok right =>
        let limit := ((a.last? 'n').bind sizeValue?).getD (max left.length right.length + 1)
        let leftText := (left.toList.drop skips[0]!).take limit
        let rightText := (right.toList.drop skips[1]!).take limit
        let found := firstDifference 1 1 leftText rightText
        let stops := if a.has 'l' then none else found.map (·.1)
        let take (own other : List Char) (skip : Nat) : Act Unit :=
          let ended : Bool := stops.isNone && own.length ≤ other.length && own.length < limit
          takePart 0 (stops.getD (min limit (other.length + 1)) + skip) ended
        if first = "-" then take leftText rightText skips[0]!
        if second = "-" then take rightText leftText skips[1]!
        if leftText = rightText then return 0
        if a.has 's' then return 1
        let isShort := leftText.length < rightText.length
        let (name, short) := if isShort then (first, leftText) else (second, rightText)
        let ends : Act Unit := do
          if short.isEmpty then cmpUsage.complain ("EOF on " ++ name ++ " which is empty")
          else
            let lines := short.count '\n'
            let place := if a.has 'l' then "" else
              if short.getLast? = some '\n' then ", line " ++ toString lines
              else ", in line " ++ toString (lines + 1)
            cmpUsage.complain ("EOF on " ++ name ++ " after byte " ++ toString short.length ++ place)
        let shows := a.has 'b' || a.has 'c'
        if a.has 'l' then
          let bytes := min limit (max (left.length - skips[0]!) (right.length - skips[1]!))
          let width := (toString bytes).length
          print (unlines (differingBytes width shows leftText rightText))
          if leftText.length != rightText.length then ends
        else
          match found with
          | some (byte, line, x, y) =>
            let word := if shows then "byte " else "char "
            let bytes := if shows then
                " is " ++ octalByte x ++ " " ++ visible true x ++ " " ++ octalByte y ++ " " ++
                  visible true y
              else ""
            printLine (first ++ " " ++ second ++ " differ: " ++ word ++ toString byte ++ ", line " ++
              toString line ++ bytes)
          | none => ends
        return 1

end BoardConsole.Shell.Utility
