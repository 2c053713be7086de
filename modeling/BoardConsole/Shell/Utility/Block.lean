import BoardConsole.Shell.Utility.Encode
import BoardConsole.Shell.Utility.Make

/-!
# Shell — Files in blocks

`dd` copies a part of an input in blocks, and changes it on the way. `truncate` cuts or extends files to
a size that may be told by that of other files, or by their own.
-/

namespace BoardConsole.Shell.Utility

open Act

/-! ### Reading some of an input -/

/-- Reads up to some bytes from a descriptor, and no further. -/
def readUpTo (count : Nat) (descriptor : Nat) : Act (Except TransferFault String) := do
  match ← description? descriptor with
  | some (_, ⟨.pipe n, _, _, true, _⟩) =>
    let text ← pipeText n
    if count ≤ text.length then
      leaveInPipe n (text.drop count) count false
      return .ok (String.ofList (text.take count))
    else return .ok (String.ofList (← emptyPipe n))
  | _ =>
    let text ← readNeeded descriptor count fun _ text => if count ≤ text.length then some count else none
    return text.map fun s => String.ofList (s.toList.take count)

/-! ### Operands -/

/-- The operand of a name that is written as an assignment. -/
def operand? (args : List String) (name : String) : Option String :=
  (args.filterMap fun w =>
    let (n, value) := splitAssignment w
    if n = name then value else none).getLast?

/-- How much a unit of `dd` counts for. -/
def blockUnit? (s : String) : Option Nat :=
  match s.toList with
  | ['c'] | ['B'] => some 1
  | ['w'] => some 2
  | _     => unitValue? s

/-- The number that a text spells: a product of numbers with units. -/
def blockNumber? (s : String) : Option Nat :=
  let factor? (part : String) : Option Nat :=
    let digits := part.toList.takeWhile Char.isDigit
    let unit := String.ofList (part.toList.drop digits.length)
    if digits.isEmpty then none
    else (if unit = "" then some 1 else blockUnit? unit).map (Arithmetic.valueOf 10 digits * ·)
  ((s.splitOn "x").mapM factor?).map fun factors => factors.foldl (· * ·) 1

/-- The names of operands. -/
def ddNames : List String :=
  ["if", "of", "bs", "ibs", "obs", "cbs", "count", "skip", "seek", "iseek", "oseek", "conv", "status",
   "iflag", "oflag"]

/-- The words for changes. -/
def ddChanges : List String :=
  ["ascii", "ebcdic", "ibm", "block", "unblock", "lcase", "ucase", "sparse", "swab", "sync", "excl",
   "nocreat", "notrunc", "noerror", "fdatasync", "fsync"]

/-- The words for how files are used. -/
def ddFlags : List String :=
  ["append", "binary", "cio", "direct", "directory", "dsync", "noatime", "nocache", "noctty",
   "nofollow", "nolinks", "nonblock", "sync", "text", "fullblock", "count_bytes", "skip_bytes",
   "seek_bytes"]

/-- The words of a list. -/
def listWords (s : Option String) : List String := ((s.getD "").splitOn ",").filter (· != "")

/-- What is wrong with operands, if anything: the words for it, and whether the usage is to blame. -/
def ddFault? (args : List String) : Option (String × Bool) :=
  let unknown := args.find? fun w =>
    let (n, value) := splitAssignment w
    value.isNone || !ddNames.contains n
  let numbers := ["bs", "ibs", "obs", "cbs", "count", "skip", "seek", "iseek", "oseek"]
  let badNumber := args.findSome? fun w =>
    let (n, value) := splitAssignment w
    match value with
    | some s =>
      if !numbers.contains n then none
      else
        match blockNumber? s with
        | none   => some s
        | some 0 => if ["bs", "ibs", "obs", "cbs"].contains n then some s else none
        | some _ => none
    | none => none
  let wordsOf (name : String) : List String := listWords (operand? args name)
  match unknown, badNumber with
  | some w, _ => some ("unrecognized operand " ++ cited w, true)
  | none, some s => some ("invalid number: " ++ cited s, false)
  | none, none =>
    let bad (name what : String) (known : List String) : Option (String × Bool) :=
      ((wordsOf name).find? (!known.contains ·)).map fun w => ("invalid " ++ what ++ ": " ++ cited w, true)
    let both (a b : String) : Option (String × Bool) :=
      if (wordsOf "conv").contains a && (wordsOf "conv").contains b then
        some ("cannot combine " ++ a ++ " and " ++ b, false)
      else none
    (((((bad "conv" "conversion" ddChanges).or (bad "iflag" "input flag" ddFlags)).or
      (bad "oflag" "output flag" ddFlags)).or
      (bad "status" "status level" ["none", "noxfer", "progress"])).or
      ((both "block" "unblock").or ((both "lcase" "ucase").or (both "excl" "nocreat"))))

/-! ### Changing blocks -/

/-- Bytes with the two of each pair changed for each other. -/
def swapPairs (text : List Char) : List Char :=
  let (out, held) := text.foldl
    (fun (out, held) c =>
      match held with
      | none   => (out, some c)
      | some b => (b :: c :: out, none)) (([], none) : List Char × Option Char)
  (held.toList ++ out).reverse

/-- Lines as records of one size, and how many were cut. -/
def linesToRecords (size : Nat) (text : List Char) : List Char × Nat :=
  let lines := linesOf (String.ofList text)
  (lines.flatMap fun s => s.toList.take size ++ List.replicate (size - s.length) ' ',
    (lines.filter fun s => size < s.length).length)

/-- Records of one size as lines. -/
def recordsToLines (size : Nat) (text : List Char) : List Char :=
  (piecesOf size text.length text).flatMap fun r =>
    (r.reverse.dropWhile (· = ' ')).reverse ++ ['\n']

/-- A number of bytes as it is told to people. -/
def byteReport (n : Nat) : String :=
  let one (base : Nat) (unit : String) (names : List String) : String :=
    let power := (List.range 8).foldl (fun k j => if Nat.pow base (j + 1) ≤ n then j + 1 else k) 0
    let tenths := Decimal.roundDiv (n * 10) (Nat.pow base power)
    if power = 0 then toString n ++ " " ++ unit
    else if tenths < 100 then
      toString (tenths / 10) ++ "." ++ toString (tenths % 10) ++ " " ++ names.getD (power - 1) ""
    else toString (Decimal.roundDiv n (Nat.pow base power)) ++ " " ++ names.getD (power - 1) ""
  let decimal := one 1000 "B" ["kB", "MB", "GB", "TB", "PB", "EB"]
  let binary := one 1024 "B" ["KiB", "MiB", "GiB", "TiB", "PiB", "EiB"]
  if n = 1 then "1 byte"
  else if n < 1000 then toString n ++ " bytes"
  else if n < 1024 then toString n ++ " bytes (" ++ decimal ++ ")"
  else toString n ++ " bytes (" ++ decimal ++ ", " ++ binary ++ ")"

/-- Copies an input in blocks. -/
def dd : Builtin := fun _ args => do
  if args = ["--help"] then return ← printChecked "dd" "Usage: dd [OPERAND]...\n"
  let args := if args.head? = some "--" then args.drop 1 else args
  match ddFault? args with
  | some (fault, ofUsage) =>
    complain ("dd: " ++ fault)
    if ofUsage then complain "Try 'dd --help' for more information."
    return 1
  | none =>
    let number (name : String) : Option Nat := (operand? args name).bind blockNumber?
    let changes := listWords (operand? args "conv")
    let inFlags := listWords (operand? args "iflag")
    let outFlags := listWords (operand? args "oflag")
    let inSize := ((number "bs").or (number "ibs")).getD 512
    let outSize := ((number "bs").or (number "obs")).getD 512
    -- Amounts are blocks, unless a flag or their unit says that they are bytes.
    let bytesOf (names : List String) (size : Nat) (inBytes : Bool) : Option Nat :=
      (names.findSome? (operand? args)).bind fun s =>
        (blockNumber? s).map fun n => if inBytes || s.endsWith "B" then n else n * size
    let skip := (bytesOf ["skip", "iseek"] inSize (inFlags.contains "skip_bytes")).getD 0
    let seek := (bytesOf ["seek", "oseek"] outSize (outFlags.contains "seek_bytes")).getD 0
    let count := bytesOf ["count"] inSize (inFlags.contains "count_bytes")
    let source := operand? args "if"
    let take (descriptor : Nat) : Act (Except TransferFault String) :=
      match count with
      | some n => readUpTo (skip + n) descriptor
      | none   => readAll? descriptor
    let read ← match source with
      | none      => do pure ((← take 0).mapError (·.reason))
      | some name => readingFile name take
    let status := operand? args "status"
    match read with
    | .error reason =>
      let isDirectory : Bool := reason = PathFault.isADirectory.reason
      match source with
      | some name =>
        if isDirectory then complain ("dd: error reading " ++ quoted name ++ ": " ++ reason)
        else complain ("dd: failed to open " ++ quoted name ++ ": " ++ reason)
      | none => complain ("dd: error reading 'standard input': " ++ reason)
      if isDirectory && status != some "none" then
        complain "0+0 records in"
        complain "0+0 records out"
      return 1
    | .ok text =>
      if text.length < skip then
        complain ("dd: " ++ shownName (source.getD "standard input") ++
          ": cannot skip to specified offset")
      let rest := text.toList.drop skip
      let taken := match count with | some n => rest.take n | none => rest
      let full := taken.length / inSize
      let part := if taken.length % inSize = 0 then 0 else 1
      let filler := if changes.contains "block" || changes.contains "unblock" then ' ' else '\x00'
      let data :=
        if changes.contains "sync" && part = 1 then
          taken ++ List.replicate (inSize - taken.length % inSize) filler
        else taken
      let data := if changes.contains "swab" then swapPairs data else data
      let data :=
        if changes.contains "ucase" then data.map Char.toUpper
        else if changes.contains "lcase" then data.map Char.toLower
        else data
      let recordSize := (number "cbs").getD 0
      let (data, cut) :=
        if recordSize = 0 then (data, 0)
        else if changes.contains "block" then linesToRecords recordSize data
        else if changes.contains "unblock" then (recordsToLines recordSize data, 0)
        else (data, 0)
      let summary : Act Unit := do
        if status != some "none" then
          let direct := (number "bs").isSome && !changes.any fun c =>
            ["swab", "ucase", "lcase", "block", "unblock"].contains c
          let outFull := data.length / outSize
          let outPart := if data.length % outSize = 0 then 0 else 1
          let (outFull, outPart) :=
            if direct then (if changes.contains "sync" then (full + part, 0) else (full, part))
            else (outFull, outPart)
          complain (toString full ++ "+" ++ toString part ++ " records in")
          complain (toString outFull ++ "+" ++ toString outPart ++ " records out")
          if cut != 0 then
            complain (toString cut ++ " truncated record" ++ (if cut = 1 then "" else "s"))
          if status != some "noxfer" then
            complain (byteReport data.length ++ " copied, 0.0001 s, " ++
              (byteReport (data.length * 10000)).replace " bytes" " B" ++ "/s")
      match operand? args "of" with
      | none =>
        let n ← printChecked "dd" (String.ofList data)
        summary
        return n
      | some target =>
        let refuse (reason : String) : Act Nat := do
          complain ("dd: failed to open " ++ quoted target ++ ": " ++ reason)
          return 1
        let there := (← look true target).toOption
        if changes.contains "excl" && there.isSome then return ← refuse "File exists"
        if changes.contains "nocreat" && there.isNone then
          return ← refuse PathFault.missing.reason
        let v ← volume
        let old := match there with
          | some (.file, path) => (v.contents? path).getD []
          | _                  => []
        let old := (ofBytes old).toList
        let out :=
          if there.any (·.1 != .file) then data
          else if outFlags.contains "append" then
            (if changes.contains "notrunc" then old else []) ++ data
          else
            let kept := old.take seek ++ List.replicate (seek - old.length) '\x00'
            let behind := if changes.contains "notrunc" then old.drop (seek + data.length) else []
            kept ++ data ++ behind
        match ← writeFile target (String.ofList out) false with
        | .ok () =>
          summary
          return 0
        | .error reason =>
          if reason = TransferFault.noSpace.reason then
            complain ("dd: error writing " ++ quoted target ++ ": " ++ reason)
            return 1
          else refuse reason

/-! ### Sizes of files -/

def truncateUsage : Usage :=
  { program := "truncate", letters := "cos:r:", misuse := 1
    names := [("size", 's'), ("no-create", 'c'), ("reference", 'r'), ("io-blocks", 'o')] }

/-- The size that a file is to have, told by another one. -/
inductive NewSize where
  | exactly
  | longer
  | shorter
  | atMost
  | atLeast
  | multipleBelow
  | multipleAbove
deriving DecidableEq

/-- The signs in front of sizes. -/
def sizeSigns : List (Char × NewSize) :=
  [('<', .atMost), ('>', .atLeast), ('/', .multipleBelow), ('%', .multipleAbove)]

/-- The new size of a file by its old one. -/
def NewSize.apply (s : NewSize) (old n : Nat) : Nat :=
  match s with
  | exactly       => n
  | longer        => old + n
  | shorter       => old - n
  | atMost        => min old n
  | atLeast       => max old n
  | multipleBelow => old / n * n
  | multipleAbove => (old + n - 1) / n * n

/-- The greatest size that a file is given. -/
def greatestSize : Nat := Nat.pow 2 24

/-- A size with what it is told by, or what is said of it. -/
def newSize? (text : String) : Except String (NewSize × Nat) := do
  let blank (c : Char) : Bool := c = ' ' || c = '\t'
  let cs := text.toList.dropWhile blank
  let (sign, cs) := match cs with
    | c :: rest => match sizeSigns.lookup c with
      | some s => (some s, rest.dropWhile blank)
      | none   => (none, cs)
    | [] => (none, cs)
  let (own, digits) : Option NewSize × List Char := match cs with
    | '+' :: rest => (some .longer, rest)
    | '-' :: rest => (some .shorter, rest)
    | cs          => (none, cs)
  if sign.isSome && own.isSome then throw "multiple relative modifiers specified"
  let size := if digits.getLast? = some 'b' then none else sizeValue? (String.ofList digits)
  match size with
  | none => throw ("Invalid number: " ++ cited text)
  | some n =>
    let how := (sign.or own).getD .exactly
    if n = 0 && (how = .multipleBelow || how = .multipleAbove) then throw "division by zero"
    return (how, n)

/-- Gives files a size by their old one. -/
def truncateFiles (a : Arguments) (names : List String) (size : Nat → Nat) : Act Nat :=
  forAll names fun name => do
    let refuse (reason : String) : Act Bool := do
      truncateUsage.complain ("cannot open " ++ quoted name ++ " for writing: " ++ reason)
      return false
    match ← look true name with
    | .error reason =>
      if a.has 'c' && reason = PathFault.missing.reason then return true
      match ← writeFile name (repeated (min greatestSize (size 0)) '\x00') false with
      | .ok ()        => return true
      | .error reason => refuse reason
    | .ok (.directory, _) => refuse PathFault.isADirectory.reason
    | .ok (.file, path) =>
      let old := (contentsAt? (← volume) path).getD []
      let wanted := min greatestSize (size old.length)
      let text := ofBytes (old.take wanted) ++ repeated (wanted - old.length) '\x00'
      match ← writeFile name text false with
      | .ok ()        => return true
      | .error reason => refuse reason
    | .ok _ =>
      truncateUsage.complain ("failed to truncate " ++ quoted name ++ " at " ++
        toString (size 0) ++ " bytes: Invalid argument")
      return false

/-- Cuts or extends files. -/
def truncate : Builtin := fun _ args => truncateUsage.run args fun a => do
  let given : Except String (Option (NewSize × Nat)) := match a.last? 's' with
    | none   => .ok none
    | some s => (newSize? s).map some
  match given with
  | .error fault =>
    if fault.startsWith "multiple" then return ← truncateUsage.refuse fault
    truncateUsage.complain fault
    return 1
  | .ok given =>
    match given, a.last? 'r' with
    | none, none => truncateUsage.refuse "you must specify either '--size' or '--reference'"
    | some (.exactly, _), some _ =>
      truncateUsage.refuse "you must specify a relative '--size' with '--reference'"
    | given, reference =>
      if a.has 'o' && given.isNone then
        return ← truncateUsage.refuse "'--io-blocks' was specified but '--size' was not"
      if a.rest.isEmpty then return ← truncateUsage.refuse "missing file operand"
      let unit := if a.has 'o' then 4096 else 1
      match reference with
      | none =>
        let (how, n) := given.getD (.exactly, 0)
        truncateFiles a a.rest fun old => how.apply old (n * unit)
      | some name =>
        match ← look true name with
        | .error reason =>
          truncateUsage.complain ("cannot stat " ++ quoted name ++ ": " ++ reason)
          return 1
        | .ok (_, path) =>
          let size := ((contentsAt? (← volume) path).getD []).length
          let (how, n) := given.getD (.longer, 0)
          truncateFiles a a.rest fun _ => how.apply size (n * unit)

end BoardConsole.Shell.Utility
