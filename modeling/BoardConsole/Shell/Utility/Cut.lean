import BoardConsole.Shell.Utility.Text

/-!
# Shell — Columns of lines

`cut` keeps columns of the lines of its inputs, and `paste` puts lines side by side. A column is a
byte, or a field between delimiters; lists of columns name ranges of positions from one.
-/

namespace BoardConsole.Shell.Utility

open Act

/-! ### Ends of lines -/

/-- What ends a line: a zero where the options say so. -/
def lineEnd (a : Arguments) : Char := if a.has 'z' then '\x00' else '\n'

/-- The lines of a text without their ends. A last line without an end counts. -/
def linesUpTo (ending : Char) (s : String) : List String :=
  match (s.splitOn (String.ofList [ending])).reverse with
  | "" :: rest => rest.reverse
  | parts      => parts.reverse

/-- A text with an end after each of its lines. -/
def joinLines (ending : Char) (lines : List String) : String :=
  String.join (lines.map fun s => s.push ending)

/-! ### Positions -/

/-- A range of positions from one; without an end, all that follow. -/
structure Positions where
  first : Nat
  last  : Option Nat
deriving DecidableEq, Repr

/-- Whether a position is in a range. -/
def Positions.contains (p : Positions) (n : Nat) : Bool :=
  p.first ≤ n && (match p.last with | some last => n ≤ last | none => true)

/-- Why a list of positions cannot be read. -/
inductive PositionFault where
  | range
  | zero
  | noEnd
  | decreasing
  | tooLarge (digits : String)
  | value (rest : String)

/-- The words for it, for fields or for bytes. -/
def PositionFault.message (ofFields : Bool) : PositionFault → String
  | range => if ofFields then "invalid field range" else "invalid byte or character range"
  | zero =>
    if ofFields then "fields are numbered from 1" else "byte/character positions are numbered from 1"
  | noEnd       => "invalid range with no endpoint: -"
  | decreasing  => "invalid decreasing range"
  | tooLarge s  =>
    (if ofFields then "field number " else "byte/character offset ") ++ cited s ++ " is too large"
  | value s =>
    (if ofFields then "invalid field value " else "invalid byte/character position ") ++ cited s

/-- The greatest position. -/
def greatestPosition : Nat := Nat.pow 2 64 - 2

/-- The number that digits spell, if it is not too large. -/
def positionOf (digits : List Char) : Except PositionFault Nat :=
  let n := Arithmetic.valueOf 10 digits
  if greatestPosition < n then .error (.tooLarge (String.ofList digits)) else .ok n

/-- The range at the beginning of a list, and what follows. -/
def Positions.read (cs : List Char) : Except PositionFault (Positions × List Char) := do
  let isEnd (c : Char) : Bool := c = ',' || c = ' ' || c = '\t'
  let start := cs.takeWhile Char.isDigit
  let first ← positionOf start
  match cs.drop start.length with
  | '-' :: more =>
    if !start.isEmpty && first = 0 then throw .zero
    let stop := more.takeWhile Char.isDigit
    let last ← positionOf stop
    let first := if start.isEmpty then 1 else first
    let range : Positions := ⟨first, if stop.isEmpty then none else some last⟩
    match more.drop stop.length with
    | '-' :: _ => throw .range
    | rest@(c :: _) => if !isEnd c then throw (.value (String.ofList rest))
    | [] => pure ()
    if start.isEmpty && stop.isEmpty then throw .noEnd
    if !stop.isEmpty && last < first then throw .decreasing
    return (range, more.drop stop.length)
  | rest =>
    if let c :: _ := rest then
      if !isEnd c then throw (.value (String.ofList rest))
    if first = 0 then throw .zero
    return (⟨first, some first⟩, rest)

/-- The ranges that a list names. -/
def Positions.readAll : (fuel : Nat) → List Char → Except PositionFault (List Positions)
  | 0, _ => .ok []
  | fuel + 1, cs => do
    let (range, rest) ← Positions.read cs
    match rest with
    | []        => return [range]
    | _ :: more => return range :: (← Positions.readAll fuel more)

/-- Ranges in order, those that have a position in common as one. -/
def Positions.merge (ranges : List Positions) : List Positions :=
  let sorted := ranges.mergeSort fun p q => p.first ≤ q.first
  (sorted.foldl
    (fun out q =>
      match out with
      | p :: rest =>
        match p.last with
        | none => out
        | some last =>
          if q.first ≤ last then ⟨p.first, q.last.map (max last)⟩ :: rest else q :: out
      | [] => [q]) []).reverse

/-- The ranges between ranges in order. -/
def Positions.between (next : Nat) : List Positions → List Positions
  | [] => [⟨next, none⟩]
  | p :: rest =>
    let gap : List Positions := if next < p.first then [⟨next, some (p.first - 1)⟩] else []
    match p.last with
    | none      => gap
    | some last => gap ++ Positions.between (last + 1) rest

/-- The parts of some items that ranges in order cover, in order. -/
def Positions.parts {α : Type} (ranges : List Positions) (items : List α) : List (List α) :=
  (ranges.map fun p =>
    let behind := items.drop (p.first - 1)
    match p.last with
    | some last => behind.take (last + 1 - p.first)
    | none      => behind).filter fun part => !part.isEmpty

/-! ### Cutting -/

def cutUsage : Usage :=
  { program := "cut", letters := "b:c:d:f:nszκω:", misuse := 1
    names := [("bytes", 'b'), ("characters", 'c'), ("delimiter", 'd'), ("fields", 'f'),
      ("only-delimited", 's'), ("zero-terminated", 'z'), ("complement", 'κ'),
      ("output-delimiter", 'ω')] }

/-- The chosen fields of a line; nothing where the line is left out. -/
def cutFields (delimiter joint : String) (onlyDelimited : Bool) (ranges : List Positions)
    (line : String) : Option String :=
  match line.splitOn delimiter with
  | [_]    => if onlyDelimited then none else some line
  | fields => some (joint.intercalate (Positions.parts ranges fields).flatten)

/-- What is wrong with options that were read, if anything. -/
def cutFault? (a : Arguments) : Option String :=
  let lists := a.options.filter fun o => ['b', 'c', 'f'].contains o.1
  if lists.length > 1 then some "only one list may be specified"
  else if a.options.any fun o => o.1 = 'd' && o.2.length > 1 then
    some "the delimiter must be a single character"
  else if lists.isEmpty then some "you must specify a list of bytes, characters, or fields"
  else if a.has 'f' then none
  else if a.has 'd' then
    some "an input delimiter may be specified only when operating on fields"
  else if a.has 's' then
    some "suppressing non-delimited lines makes sense\n\tonly when operating on fields"
  else none

/-- Prints columns of lines. -/
def cut : Builtin := fun _ args => cutUsage.run args fun a => do
  match cutFault? a with
  | some fault => cutUsage.refuse fault
  | none =>
    let byField := a.has 'f'
    let list := ((a.last? 'f').or ((a.last? 'b').or (a.last? 'c'))).getD ""
    match Positions.readAll (list.length + 1) list.toList with
    | .error fault => cutUsage.refuse (fault.message byField)
    | .ok ranges =>
      let ranges := Positions.merge ranges
      let ranges := if a.has 'κ' then Positions.between 1 ranges else ranges
      let delimiter := match a.last? 'd' with
        | none    => "\t"
        | some "" => "\x00"
        | some d  => d
      let ending := lineEnd a
      let whole := byField && delimiter = String.ofList [ending]
      let (texts, failed) ← readInputs (plainWords "cut") a.rest
      let joint := a.last? 'ω'
      let cutLine (line : String) : Option String :=
        if byField then cutFields delimiter (joint.getD delimiter) (a.has 's') ranges line
        else
          let parts := (Positions.parts ranges line.toList).map String.ofList
          some ((joint.getD "").intercalate parts)
      let out := texts.map fun (_, text) =>
        let lines := linesUpTo ending text
        let lines := if whole then [delimiter.intercalate lines] else lines
        joinLines ending (lines.filterMap cutLine)
      finish "cut" (String.join out) failed

/-! ### Pasting -/

def pasteUsage : Usage :=
  { program := "paste", letters := "d:sz", misuse := 1
    names := [("delimiters", 'd'), ("serial", 's'), ("zero-terminated", 'z')] }

/-- Texts with delimiters between them, used in turn. -/
def joinWith (delimiters : Array String) (texts : List String) : String :=
  let marked := texts.zipIdx.map fun (s, n) =>
    if n = 0 then s else delimiters.getD ((n - 1) % delimiters.size) "" ++ s
  String.join marked

/-- The delimiters that a text lists; nothing where its end is missing. -/
def delimiters? : List Char → Option (List String)
  | ['\\']              => none
  | '\\' :: '0' :: rest => (delimiters? rest).map ("" :: ·)
  | '\\' :: c :: rest   =>
    let meant := if c = 'a' then c else (Format.letter? c).getD c
    (delimiters? rest).map (String.ofList [meant] :: ·)
  | c :: rest           => (delimiters? rest).map (String.ofList [c] :: ·)
  | []                  => some []

/-- The rows of columns of unequal heights; what is missing is empty. -/
def rowsOf (columns : List (Array String)) : List (List String) :=
  let height := columns.foldl (fun n c => max n c.size) 0
  (List.range height).map fun n => columns.map fun c => c.getD n ""

/-- Prints lines of inputs side by side. -/
def paste : Builtin := fun _ args => pasteUsage.run args fun a => do
  match delimiters? ((a.last? 'd').getD "\t").toList with
  | none =>
    pasteUsage.complain
      ("delimiter list ends with an unescaped backslash: " ++ ((a.last? 'd').getD ""))
    return 1
  | some listed =>
    let delimiters := if listed.isEmpty then #[""] else listed.toArray
    let ending := lineEnd a
    let names := if a.rest.isEmpty then ["-"] else a.rest
    let standard := names.count "-"
    let mut input : Option (List String) := none
    let mut columns : Array (List String) := #[]
    let mut failed := false
    let mut dealt := 0
    for name in names do
      if name = "-" && input.isSome && !a.has 's' then
        columns := columns.push []
      else
        match ← readInput name with
        | .ok text =>
          let lines := linesUpTo ending text
          if name = "-" then
            input := some lines
            columns := columns.push (if a.has 's' then lines else [])
          else columns := columns.push lines
        | .error reason =>
          pasteUsage.complain (shownName name ++ ": " ++ reason)
          if !a.has 's' then return 1
          failed := true
    if a.has 's' then
      let rows := columns.toList.map (joinWith delimiters)
      return ← finish "paste" (joinLines ending rows) failed
    -- The standard input is dealt out to all that name it.
    let lines := (input.getD []).zipIdx
    let mut shares : Array (Array String) := #[]
    for (name, column) in names.zip columns.toList do
      if name = "-" then
        let share := lines.filterMap fun (s, n) => if n % standard = dealt then some s else none
        shares := shares.push share.toArray
        dealt := dealt + 1
      else shares := shares.push column.toArray
    finish "paste" (joinLines ending ((rowsOf shares.toList).map (joinWith delimiters))) failed

end BoardConsole.Shell.Utility
