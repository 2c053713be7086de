import BoardConsole.Shell.Utility.Names
import BoardConsole.Shell.Utility.Text

/-!
# Shell — Inputs in pieces

`split` cuts an input into pieces, and writes each to a file of its own. The names of the files differ
in their ends, which count up.
-/

namespace BoardConsole.Shell.Utility

open Act

/-! ### Names -/

/-- How names of pieces are made. -/
structure PieceNames where
  front    : String
  alphabet : List Char
  /-- Whether ends become longer where no more are left. -/
  grows    : Bool
  ending   : String

/-- The end of a name: what stays of shorter ones, and the places that count, the last first. -/
structure PieceEnd where
  fixed  : List Nat
  places : List Nat

/-- Places that count one up, the last first; nothing where all have the greatest value. -/
def countedUp? (base : Nat) : List Nat → Option (List Nat)
  | [] => none
  | n :: rest => if n + 1 < base then some ((n + 1) :: rest) else (countedUp? base rest).map (0 :: ·)

/-- The end behind another. Ends that grow never use the greatest value of their first place for
counting: a name with it is the beginning of longer ones, which so stand behind all before them. -/
def PieceNames.next? (names : PieceNames) (e : PieceEnd) : Option PieceEnd := do
  let base := names.alphabet.length
  let places ← countedUp? base e.places
  if names.grows && places.getLast? = some (base - 1) then
    return ⟨e.fixed ++ [base - 1], List.replicate (places.length + 1) 0⟩
  else return { e with places }

/-- The name with an end. -/
def PieceNames.spell (names : PieceNames) (e : PieceEnd) : String :=
  names.front ++ String.ofList ((e.fixed ++ e.places.reverse).map (names.alphabet.getD · '?')) ++
    names.ending

/-! ### Cuts -/

/-- How an input is cut. -/
inductive Cutting where
  | lines (count : Nat)
  | bytes (count : Nat)
  /-- Whole lines, as many as some bytes hold. -/
  | packed (count : Nat)
  /-- A number of pieces, or only one of them. -/
  | byteChunks (only : Option Nat) (count : Nat)
  | lineChunks (only : Option Nat) (count : Nat)
  /-- One line for each piece in turn. -/
  | turns (only : Option Nat) (count : Nat)

/-- The one piece that is wanted. -/
def Cutting.only? : Cutting → Option Nat
  | byteChunks k _ | lineChunks k _ | turns k _ => k
  | lines _ | bytes _ | packed _                => none

/-- How many pieces there will be, if that is known. -/
def Cutting.pieces? : Cutting → Option Nat
  | byteChunks _ n | lineChunks _ n | turns _ n => some n
  | lines _ | bytes _ | packed _                => none

/-- Whether the size of the input must be known. -/
def Cutting.needsSize : Cutting → Bool
  | byteChunks .. | lineChunks .. => true
  | _                             => false

/-- A list in runs of some length. -/
def runsOf {α : Type} (count : Nat) : (fuel : Nat) → List α → List (List α)
  | 0, _ => []
  | fuel + 1, items =>
    if items.isEmpty then [] else items.take count :: runsOf count fuel (items.drop count)

/-- Lines that are being packed: the pieces, the last first; how much of the last is used; text that is
held back; and whether the last piece has whole lines. -/
structure Packing where
  pieces : List String
  used   : Nat
  held   : List Char
  whole  : Bool

/-- The packing with some text put into the last piece, or into a new one. -/
def Packing.put (p : Packing) (text : List Char) : Packing :=
  let text' := String.ofList text
  let pieces := match p.used, p.pieces with
    | 0, pieces            => text' :: pieces
    | _ + 1, last :: rest  => (last ++ text') :: rest
    | _ + 1, []            => [text']
  { p with pieces, used := p.used + text.length }

/-- How much of a text is whole lines. -/
def lengthOfWhole (ending : Char) (text : List Char) : Nat :=
  (text.reverse.dropWhile (· != ending)).length

/-- Packs a text. A line that no piece can hold is broken, and what is left of it is held back until
it is known how long it is. -/
def Packing.add (size : Nat) (ending : Char) : (fuel : Nat) → Packing → List Char → Packing
  | 0, p, _ => p
  | _, p, [] => p
  | fuel + 1, p, text =>
    let room := size - p.used - p.held.length
    let full : Bool := room ≤ text.length
    let window := if full then text.take room else text
    let lines := lengthOfWhole ending window
    let p := if !p.held.isEmpty && (lines != 0 || p.used = 0) then { p.put p.held with held := [] } else p
    let p := if lines = 0 then p else { p.put (text.take lines) with whole := true }
    let part := window.drop lines
    let p := if part.isEmpty then p else
      if p.whole then { p with held := p.held ++ part } else p.put part
    let p := if full then { p with used := 0, whole := false } else p
    Packing.add size ending fuel p (text.drop window.length)

/-- The pieces of packed lines. -/
def packedPieces (size : Nat) (ending : Char) (text : List Char) : List String :=
  let p := Packing.add size ending (2 * text.length + 2) ⟨[], 0, [], false⟩ text
  (if p.held.isEmpty then p else p.put p.held).pieces.reverse

/-- Lines on their way into chunks: the chunk that the next line goes into, where that chunk ends, and
the lines of each chunk, the last first. -/
structure Chunking where
  chunk : Nat
  stop  : Nat
  lines : List (Nat × String)

/-- The chunk that a line belongs to which begins at some place: the first that ends behind it. The
last chunk ends where the input does. -/
def Chunking.reach (size count total start : Nat) : (fuel : Nat) → Chunking → Chunking
  | 0, c => c
  | fuel + 1, c =>
    if start < c.stop || c.chunk ≥ count then c
    else
      let chunk := c.chunk + 1
      Chunking.reach size count total start fuel
        { c with chunk, stop := if chunk = count then total else c.stop + size }

/-- The chunks that lines belong to, by the places where they begin. -/
def chunkLines (count : Nat) (lines : List String) : List (Nat × String) :=
  let total := max (lines.foldl (fun n line => n + line.length) 0) count
  let size := total / count
  let first : Chunking := ⟨1, if count = 1 then total else size, []⟩
  let (_, c) := lines.foldl
    (fun (start, (c : Chunking)) (line : String) =>
      let c := c.reach size count total start count
      (start + line.length, { c with lines := (c.chunk, line) :: c.lines }))
    (0, first)
  c.lines.reverse

/-- The texts of a number of pieces, of items that belong to them. -/
def gather (count : Nat) (items : List (Nat × String)) : List String :=
  let table := items.foldl (fun (table : Array (List String)) (k, text) =>
    table.modify (k - 1) (text :: ·)) (Array.replicate count [])
  table.toList.map fun texts => String.join texts.reverse

/-- The pieces of a text. -/
def Cutting.cut (ending : Char) (text : String) : Cutting → List String
  | lines n  => (runsOf n (text.length + 1) (recordsOf (String.ofList [ending]) text)).map String.join
  | bytes n  => (runsOf n (text.length + 1) text.toList).map String.ofList
  | packed n => packedPieces n ending text.toList
  | byteChunks _ n =>
    let size := max text.length n / n
    let cs := text.toList
    let front := (List.range (n - 1)).map fun k => String.ofList ((cs.drop (k * size)).take size)
    front ++ [String.ofList (cs.drop ((n - 1) * size))]
  | lineChunks _ n => gather n (chunkLines n (recordsOf (String.ofList [ending]) text))
  | turns _ n =>
    let lines := recordsOf (String.ofList [ending]) text
    gather n (lines.zipIdx.map fun (line, k) => (k % n + 1, line))

/-! ### Arguments -/

def splitUsage : Usage :=
  { program := "split", letters := "0123456789C:a:b:del:n:t:uxζ:φ:ν::χ::ω", misuse := 1
    names := [("bytes", 'b'), ("lines", 'l'), ("line-bytes", 'C'), ("number", 'n'),
      ("elide-empty-files", 'e'), ("unbuffered", 'u'), ("suffix-length", 'a'),
      ("additional-suffix", 'ζ'), ("numeric-suffixes", 'ν'), ("hex-suffixes", 'χ'), ("filter", 'φ'),
      ("verbose", 'ω'), ("separator", 't')] }

/-- Why arguments are refused: with a hint about the usage, or without one. -/
inductive SplitFault where
  | plain (message : String)
  | usage (message : String)

/-- A number that arguments may spell, between two others. -/
def boundedSize (what : String) (units : Bool) (least most : Nat) (s : String) :
    Except SplitFault Nat :=
  let refused (why : String) := Except.error (SplitFault.plain ("invalid " ++ what ++ ": " ++
    cited s ++ why))
  let digits := s.dropWhile (· = '+') |>.toString
  let read := if units then sizeValue? digits else
    if digits != "" && digits.all Char.isDigit then digits.toNat? else none
  match read with
  | none   => refused ""
  | some n =>
    if n < least || n > most then
      refused (": " ++ (if n < Nat.pow 2 30 then "Numerical result out of range"
        else "Value too large for defined data type"))
    else .ok n

/-- The greatest count. -/
def greatestCount : Nat := Nat.pow 2 64 - 1

/-- The chunks that a text asks for. -/
def chunksOf (s : String) : Except SplitFault Cutting := do
  let s := (s.trimAsciiStart).toString
  let (make, rest) : (Option Nat → Nat → Cutting) × String :=
    if s.startsWith "r/" then (.turns, (s.drop 2).toString)
    else if s.startsWith "l/" then (.lineChunks, (s.drop 2).toString)
    else (.byteChunks, s)
  match rest.splitOn "/" with
  | one :: more =>
    let all := "/".intercalate more
    if more.isEmpty then return make none (← boundedSize "number of chunks" false 1 greatestCount one)
    else
      let n ← boundedSize "number of chunks" false 1 greatestCount all
      if one = "" then return make none n
      else return make (some (← boundedSize "chunk number" false 1 n one)) n
  | [] => throw (.plain "invalid number of chunks: ''")

/-- What arguments ask for. -/
structure Splitting where
  cutting : Cutting
  names   : PieceNames
  first   : PieceEnd
  ending  : Char

/-- The one way of cutting that the arguments choose. -/
def cuttingOf (a : Arguments) : Except SplitFault Cutting := do
  let digits := String.ofList ((a.options.map (·.1)).filter Char.isDigit)
  let ways := a.options.filter fun o => ['b', 'l', 'C', 'n'].contains o.1
  match ways with
  | [] =>
    if digits = "" then return .lines 1000
    else
      let n := digits.toNat?.getD 0
      if n = 0 then throw (.usage "invalid number of lines: '0'") else return .lines n
  | [(letter, s)] =>
    if digits != "" then throw (.usage "cannot split in more than one way")
    match letter with
    | 'b' => return .bytes (← boundedSize "number of bytes" true 1 greatestCount s)
    | 'C' => return .packed (← boundedSize "number of bytes" true 1 greatestCount s)
    | 'l' => return .lines (← boundedSize "number of lines" false 1 greatestCount s)
    | _   => chunksOf s
  | _ => throw (.usage "cannot split in more than one way")

/-- The character that ends a line. -/
def endingOption (a : Arguments) : Except SplitFault Char :=
  match (a.last? 't').map String.toList with
  | none             => .ok '\n'
  | some []          => .error (.plain "empty record separator")
  | some [c]         => .ok c
  | some ['\\', '0'] => .ok '\x00'
  | some cs =>
    .error (.plain ("multi-character separator " ++ cited (String.ofList cs)))

/-- How many places with a base tell some numbers apart. -/
def placesFor (base : Nat) : (fuel : Nat) → Nat → Nat
  | 0, _ => 1
  | fuel + 1, n => if n / base = 0 then 1 else placesFor base fuel (n / base) + 1

/-- The ends of names that the arguments choose. -/
def endsOf (a : Arguments) (front : String) (cutting : Cutting) :
    Except SplitFault (PieceNames × PieceEnd) := do
  let ending := (a.last? 'ζ').getD ""
  if ending.contains '/' then
    throw (.usage ("invalid suffix " ++ cited ending ++ ", contains directory separator"))
  let given ← match a.last? 'a' with
    | none   => pure 0
    | some s => boundedSize "suffix length" false 0 greatestCount s
  let kind := a.options.reverse.find? fun o => ['d', 'x', 'ν', 'χ'].contains o.1
  let numbers := "0123456789".toList
  let hex : Bool := kind.any fun o => o.1 = 'x' || o.1 = 'χ'
  let alphabet :=
    if kind.isNone then "abcdefghijklmnopqrstuvwxyz".toList
    else if hex then numbers ++ "abcdef".toList else numbers
  let start := ((kind.filter fun o => o.2 != "").map (·.2.toList)).getD []
  if !start.all alphabet.contains then
    throw (.usage (cited (String.ofList start) ++ ": invalid start value for " ++
      (if hex then "hexadecimal" else "numerical") ++ " suffix"))
  let start := match start.dropWhile (· = '0'), start with
    | [], _ :: _ => ['0']
    | cs, _      => cs
  let needed := match cutting.pieces? with
    | none   => 0
    | some n =>
      let value := (String.ofList start).toNat?.getD 0
      placesFor alphabet.length 64 (n - 1 + (if value < n then value else 0))
  if given != 0 && given < needed then
    throw (.plain ("the suffix length needs to be at least " ++ toString needed))
  let length := if given = 0 then max 2 needed else given
  if start.length > length then
    throw (.usage "numerical suffix start value is too large for the suffix length")
  let places := start.reverse.map fun c => (alphabet.idxOf? c).getD 0
  return (⟨front, alphabet, given = 0 && needed = 0 && start.isEmpty, ending⟩,
    ⟨[], places ++ List.replicate (length - places.length) 0⟩)

/-- What the arguments ask for. -/
def Splitting.ofArguments (a : Arguments) : Except SplitFault Splitting := do
  let ending ← endingOption a
  let cutting ← cuttingOf a
  if cutting.only?.isSome && a.has 'φ' then
    throw (.usage "--filter does not process a chunk extracted to stdout")
  let (names, first) ← endsOf a (a.rest.getD 1 "x") cutting
  match a.rest.drop 2 with
  | []         => return ⟨cutting, names, first, ending⟩
  | extra :: _ => throw (.usage ("extra operand " ++ cited extra))

/-! ### The utility -/

/-- Gives a piece to a command, and answers whether it ended well. -/
def filterPiece (r : Runner) (command name text : String) : Act Bool := do
  putVariable "FILE" (some ⟨some name, true, false⟩)
  match ← feed r ["/bin/sh", "-c", command] text with
  | 0 => return true
  | n =>
    splitUsage.complain ("with FILE=" ++ shownName name ++ ", exit " ++ toString n ++
      " from command: " ++ command)
    return false

/-- Writes pieces, each to the file with the next name, and answers a status. -/
def writePieces (r : Runner) (a : Arguments) (input : Option Path) (names : PieceNames) :
    Option PieceEnd → List String → Act Nat
  | _, [] => return 0
  | none, _ => do
    splitUsage.complain "output file suffixes exhausted"
    return 1
  | some e, piece :: rest => do
    let name := names.spell e
    if let some command := a.last? 'φ' then
      if a.has 'ω' then print ("executing with FILE=" ++ shownName name ++ "\n")
      if !(← filterPiece r command name piece) then return 1
    else
      if a.has 'ω' then print ("creating file " ++ quoted name ++ "\n")
      let path ← resolve true name
      if input.isSome && path.toOption = input then
        splitUsage.complain (quoted name ++ " would overwrite input; aborting")
        return 1
      if let .error reason ← writeFile name piece false then
        splitUsage.complain (shownName name ++ ": " ++ reason)
        return 1
    writePieces r a input names (names.next? e) rest

/-- Cuts an input into pieces. -/
def split : Builtin := fun r args => splitUsage.run args fun a => do
  match Splitting.ofArguments a with
  | .error (.plain message) =>
    splitUsage.complain message
    return 1
  | .error (.usage message) => splitUsage.refuse message
  | .ok s =>
    let name := a.rest.headD "-"
    match ← readInput name with
    | .error reason =>
      splitUsage.complain (
        if reason != PathFault.isADirectory.reason then
          "cannot open " ++ quoted name ++ " for reading: " ++ reason
        else shownName name ++ ": " ++
          (if s.cutting.needsSize then "cannot determine file size: " else "") ++ reason)
      return 1
    | .ok text =>
      let pieces := s.cutting.cut s.ending text
      match s.cutting.only? with
      | some k => printChecked "split" (pieces.getD (k - 1) "")
      | none =>
        let pieces := if a.has 'e' then pieces.filter (· != "") else pieces
        let path ← resolve true name
        let input := if name = "-" then none else path.toOption
        writePieces r a input s.names (some s.first) pieces

end BoardConsole.Shell.Utility
