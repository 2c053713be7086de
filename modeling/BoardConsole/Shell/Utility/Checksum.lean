import BoardConsole.Shell.Digest
import BoardConsole.Shell.Utility.Cut
import BoardConsole.Shell.Utility.Encode

/-!
# Shell — Checksums of files

Each utility prints a digest or a sum of every input with its name, and can check a list that was
printed before. A line of such a list either begins with the digest, or names the kind of the digest
and the input before it.
-/

namespace BoardConsole.Shell.Utility

open Act

/-! ### Kinds -/

/-- A kind of digest. -/
structure DigestKind where
  /-- Its name in lists. -/
  tag    : String
  digest : ByteArray → List UInt8
  /-- The bytes of the digest. -/
  size   : Nat

/-- The digests by the names of their algorithms. -/
def digestKinds : List (String × DigestKind) :=
  [("md5", ⟨"MD5", Digest.md5, 16⟩), ("sha1", ⟨"SHA1", Digest.sha1, 20⟩),
   ("sha224", ⟨"SHA224", Digest.sha224, 28⟩), ("sha256", ⟨"SHA256", Digest.sha256, 32⟩),
   ("sha384", ⟨"SHA384", Digest.sha384, 48⟩), ("sha512", ⟨"SHA512", Digest.sha512, 64⟩),
   ("blake2b", ⟨"BLAKE2b", Digest.blake2b 64, 64⟩), ("sm3", ⟨"SM3", Digest.sm3, 32⟩)]

/-- A digest of fewer bytes, where its kind has such. -/
def DigestKind.shortened (k : DigestKind) (size : Nat) : DigestKind :=
  if size = 0 || size = k.size then k
  else { tag := k.tag ++ "-" ++ toString (size * 8), digest := Digest.blake2b size, size }

/-- How a digest is written. -/
inductive DigestForm where
  | hexadecimal
  | letters
  | raw
deriving DecidableEq

/-- The text of a digest. -/
def DigestForm.text (form : DigestForm) (digest : List UInt8) : String :=
  match form with
  | hexadecimal => Digest.hexOf digest
  | raw         => ofBytes digest
  | letters =>
    match alphabets.lookup "base64" with
    | some a => String.ofList (a.encode (ofBytes digest).toList)
    | none   => ""

/-- The bytes of a text. -/
def byteArrayOf (text : String) : ByteArray := ⟨(toBytes text).toArray⟩

/-! ### Names in lists -/

/-- A name with its lines ends and backslashes escaped. -/
def escapedName (name : String) : String :=
  String.join (name.toList.map fun c =>
    if c = '\\' then "\\\\" else if c = '\n' then "\\n" else if c = '\r' then "\\r"
    else String.ofList [c])

/-- A name read back. -/
def unescapedName? : List Char → Option (List Char)
  | [] => some []
  | '\\' :: c :: rest =>
    let meant := [('\\', '\\'), ('n', '\n'), ('r', '\r')].lookup c
    meant.bind fun m => (unescapedName? rest).map (m :: ·)
  | ['\\'] => none
  | c :: rest => (unescapedName? rest).map (c :: ·)

/-- Whether a name has to be escaped. -/
def needsEscape (name : String) : Bool := name.toList.any fun c => c = '\\' || c = '\n' || c = '\r'

/-! ### Printing -/

/-- How checksums are printed and checked. -/
structure ChecksumForm where
  kind    : DigestKind
  form    : DigestForm
  tagged  : Bool
  binary  : Bool
  ending  : Char

/-- The line of an input. -/
def ChecksumForm.line (f : ChecksumForm) (name text : String) : String :=
  let digest := f.form.text (f.kind.digest (byteArrayOf text))
  if f.form = .raw then digest
  else
    let escapes : Bool := f.ending = '\n' && needsEscape name
    let shown := if escapes then escapedName name else name
    let mark := if escapes then "\\" else ""
    let line :=
      if f.tagged then mark ++ f.kind.tag ++ " (" ++ shown ++ ") = " ++ digest
      else mark ++ digest ++ " " ++ (if f.binary then "*" else " ") ++ shown
    line.push f.ending

/-! ### Checking -/

/-- A line of a list: the digest that an input had, in its letters, with its kind where it is named. -/
structure ListedSum where
  kind   : Option String
  digest : String
  name   : String

/-- The names of kinds as lists have them, with the sizes of those that are shortened. -/
def kindTagged? (tag : String) : Option DigestKind :=
  (digestKinds.find? (·.2.tag = tag)).map (·.2) |>.or <|
    if tag.startsWith "BLAKE2b-" then
      match (String.ofList (tag.toList.drop 8)).toNat? with
      | some bits =>
        if bits % 8 = 0 && 0 < bits && bits ≤ 512 then
          (digestKinds.lookup "blake2b").map (·.shortened (bits / 8))
        else none
      | none => none
    else none

/-- A line that names the kind of its digest. -/
def taggedLine? (line : List Char) : Option ListedSum :=
  let tag := line.takeWhile fun c => c != ' ' && c != '('
  let rest := line.drop tag.length
  let rest := if rest.head? = some ' ' then rest.drop 1 else rest
  match rest with
  | '(' :: more =>
    match splitLast ')' more with
    | some (name, after) =>
      let after := after.dropWhile fun c => c = ' ' || c = '\t'
      match after with
      | '=' :: digest =>
        let digest := digest.dropWhile fun c => c = ' ' || c = '\t'
        if (kindTagged? (String.ofList tag)).isSome then
          some ⟨some (String.ofList tag), String.ofList digest, String.ofList name⟩
        else none
      | _ => none
    | none => none
  | _ => none

/-- A line that begins with its digest. Some kinds have digests of fewer bytes. -/
def plainLine? (kind : DigestKind) (line : List Char) : Option ListedSum :=
  let digest := line.takeWhile isHexDigit
  let shorter : Bool := kind.tag = "BLAKE2b" && digest.length % 2 = 0 && !digest.isEmpty &&
    digest.length ≤ 2 * kind.size
  match line.drop digest.length with
  | ' ' :: c :: name =>
    if digest.length != 2 * kind.size && !shorter then none
    else if c = ' ' || c = '*' then some ⟨none, String.ofList digest, String.ofList name⟩
    else some ⟨none, String.ofList digest, String.ofList (c :: name)⟩
  | _ => none

/-- A line of a list for digests of some kind, or of the one that it names. -/
def listedSum? (kind : Option DigestKind) (line : String) : Option (DigestKind × ListedSum) := do
  let cs := line.toList.dropWhile fun c => c = ' ' || c = '\t'
  let (escaped, cs) := if cs.head? = some '\\' then (true, cs.drop 1) else (false, cs)
  let found ← match taggedLine? cs with
    | some s => some s
    | none   => kind.bind fun k => plainLine? k cs
  let own ← match found.kind with
    | some tag => kindTagged? tag
    | none     => kind.map fun k =>
      if k.tag = "BLAKE2b" then k.shortened (found.digest.length / 2) else k
  if kind.any fun k => k.tag != own.tag && !own.tag.startsWith (k.tag ++ "-") then none
  else
    let isHex := found.digest.length = 2 * own.size && found.digest.toList.all isHexDigit
    let letters := (own.size + 2) / 3 * 4
    if !isHex && found.digest.length != letters then none
    else
      let name ← if escaped then (unescapedName? found.name.toList).map String.ofList
        else some found.name
      return (own, { found with name })

/-- What is counted while a list is checked. -/
structure CheckCounts where
  proper     : Nat
  improper   : Nat
  unreadable : Nat
  wrong      : Nat
  right      : Nat

/-- A number with a noun behind it. -/
def counted (n : Nat) (one several : String) : String :=
  toString n ++ " " ++ (if n = 1 then one else several)

/-- Checks the list of a name. -/
def checkList (u : Usage) (a : Arguments) (kind : Option DigestKind) (name : String) : Act Bool := do
  let title := if name = "-" then "'standard input'" else name
  match ← readInput name with
  | .error reason =>
    u.complain (shownName name ++ ": " ++ reason)
    return false
  | .ok text =>
    let mut c : CheckCounts := ⟨0, 0, 0, 0, 0⟩
    let mut number := 0
    let quiet := a.has 'θ' || a.has 'σ'
    for line in linesOf text do
      number := number + 1
      let line := if line.endsWith "\r" then String.ofList line.toList.dropLast else line
      if line.startsWith "#" then continue
      match listedSum? kind line with
      | none =>
        c := { c with improper := c.improper + 1 }
        if a.has 'w' then
          let tag := (kind.map (·.tag)).getD "CRC"
          u.complain (title ++ ": " ++ toString number ++ ": improperly formatted " ++ tag ++
            " checksum line")
      | some (own, found) =>
        c := { c with proper := c.proper + 1 }
        let shown := (if needsEscape found.name then "\\" else "") ++
          (if needsEscape found.name then escapedName found.name else found.name)
        match ← readInput found.name with
        | .error reason =>
          if a.has 'μ' && reason = PathFault.missing.reason then continue
          u.complain (shownName found.name ++ ": " ++ reason)
          c := { c with unreadable := c.unreadable + 1 }
          if !a.has 'σ' then emit (shown ++ ": FAILED open or read\n")
        | .ok text =>
          let digest := own.digest (byteArrayOf text)
          let same := Digest.hexOf digest = found.digest.toLower ||
            DigestForm.letters.text digest = found.digest
          if same then
            c := { c with right := c.right + 1 }
            if !quiet then emit (shown ++ ": OK\n")
          else
            c := { c with wrong := c.wrong + 1 }
            if !a.has 'σ' then emit (shown ++ ": FAILED\n")
    if c.proper = 0 then
      u.complain (title ++ ": no properly formatted checksum lines found")
      return false
    if !a.has 'σ' then
      if c.improper != 0 then
        u.complain ("WARNING: " ++ counted c.improper "line is improperly formatted"
          "lines are improperly formatted")
      if c.unreadable != 0 then
        u.complain ("WARNING: " ++ counted c.unreadable "listed file could not be read"
          "listed files could not be read")
      if c.wrong != 0 then
        u.complain ("WARNING: " ++ counted c.wrong "computed checksum did NOT match"
          "computed checksums did NOT match")
      if a.has 'μ' && c.right = 0 && c.wrong = 0 then
        u.complain (title ++ ": no file was verified")
    let verified := !a.has 'μ' || c.right != 0 || c.wrong != 0
    return c.unreadable = 0 && c.wrong = 0 && (!a.has 'ς' || c.improper = 0) && verified

/-- The long names of the options that all utilities for digests have. -/
def digestNames : List (String × Char) :=
  [("check", 'c'), ("ignore-missing", 'μ'), ("quiet", 'θ'), ("status", 'σ'), ("strict", 'ς'),
   ("warn", 'w'), ("zero", 'z'), ("tag", 'τ'), ("binary", 'b'), ("text", 't')]

/-- What is wrong with options for checking, if anything. -/
def checkFault? (a : Arguments) : Option String :=
  let only : List (Char × String) :=
    [('μ', "ignore-missing"), ('σ', "status"), ('w', "warn"), ('θ', "quiet"), ('ς', "strict")]
  if a.has 'c' then
    if a.has 'τ' then some "the --tag option is meaningless when verifying checksums"
    else if a.has 'z' then some "the --zero option is not supported when verifying checksums"
    else if a.has 'b' || a.has 't' then
      some "the --binary and --text options are meaningless when verifying checksums"
    else none
  else
    (only.find? fun o => a.has o.1).map fun o =>
      "the --" ++ o.2 ++ " option is meaningful only when verifying checksums"

/-- The number of bytes that an option asks of a digest, or what is said of it. -/
def digestLength (a : Arguments) : Except (List String) Nat :=
  match a.last? 'l' with
  | none   => .ok 0
  | some s =>
    match s.toNat? with
    | none   => .error ["invalid length: " ++ cited s]
    | some n =>
      if 512 < n then
        .error ["invalid length: " ++ cited s, "maximum digest length for 'BLAKE2b' is 512 bits"]
      else if n % 8 != 0 then .error ["invalid length: " ++ cited s, "length is not a multiple of 8"]
      else .ok (n / 8)

/-- Prints or checks digests of one kind. -/
def digestAs (program algorithm : String) : Builtin := fun _ args =>
  let isBlake : Bool := algorithm = "blake2b"
  let u : Usage :=
    { program, letters := "bctwz" ++ (if isBlake then "l:" else "") ++ "τμθσς", misuse := 1
      names := digestNames ++ (if isBlake then [("length", 'l')] else []) }
  u.run args fun a => do
    match checkFault? a, digestLength a, digestKinds.lookup algorithm with
    | some fault, _, _ => u.refuse fault
    | _, .error faults, _ =>
      for fault in faults do u.complain fault
      return 1
    | _, _, none => return 1
    | none, .ok size, some kind =>
      let kind := kind.shortened size
      let names := if a.rest.isEmpty then ["-"] else a.rest
      let mut failed := false
      if a.has 'c' then
        for name in names do
          if !(← checkList u a (some kind) name) then failed := true
        return statusOf failed
      let f : ChecksumForm :=
        { kind, form := .hexadecimal, tagged := a.has 'τ', binary := a.has 'b' && !a.has 't'
          ending := lineEnd a }
      let (texts, unread) ← readInputs (plainWords program) names
      finish program (String.join (texts.map fun (name, text) => f.line name text)) unread

/-! ### Sums -/

/-- The line of a sum with blocks of some size. -/
def sumLine (short : Bool) (text : String) : String :=
  let bytes := byteArrayOf text
  if short then
    let n := Digest.turnedSum bytes
    let digits := toString n
    let blocks := toString ((bytes.size + 1023) / 1024)
    repeated (5 - digits.length) '0' ++ digits ++ " " ++ repeated (5 - blocks.length) ' ' ++ blocks
  else toString (Digest.plainSum bytes) ++ " " ++ toString ((bytes.size + 511) / 512)

/-- The line of a remainder with the number of bytes. -/
def remainderLine (text : String) : String :=
  let bytes := byteArrayOf text
  toString (Digest.remainder bytes) ++ " " ++ toString bytes.size

/-- Prints sums of inputs, each by a line of its own. -/
def printSums (program : String) (names : List String) (line : String → String) (ending : Char) :
    Act Nat := do
  let (texts, failed) ← readInputs (plainWords program) names
  let rows := texts.map fun (name, text) =>
    line text ++ (if names.isEmpty then "" else " " ++ name)
  finish program (joinLines ending rows) failed

def sumUsage : Usage :=
  { program := "sum", letters := "rs", names := [("sysv", 's')], misuse := 1 }

/-- Prints short sums of inputs. -/
def sum : Builtin := fun _ args => sumUsage.run args fun a =>
  let last := (a.options.getLast?).map (·.1)
  printSums "sum" a.rest (sumLine (last != some 's')) '\n'

def cksumUsage : Usage :=
  { program := "cksum", letters := "a:bctwzl:τμθσςβρυδ", misuse := 1
    names := digestNames ++ [("algorithm", 'a'), ("length", 'l'), ("base64", 'β'), ("raw", 'ρ'),
      ("untagged", 'υ'), ("debug", 'δ')] }

/-- Prints or checks sums and digests of a chosen kind. -/
def cksum : Builtin := fun _ args => cksumUsage.run args fun a => do
  let names := ["bsd", "sysv", "crc"] ++ digestKinds.map (·.1)
  let wanted := (a.last? 'a').getD "crc"
  let chosen := (names.find? (· = wanted)).or <|
    match names.filter (·.startsWith wanted) with
    | [name] => some name
    | _      => none
  match chosen, checkFault? { a with options := a.options.filter fun o => o.1 != 'τ' } with
  | none, _ =>
    cksumUsage.complain ("invalid argument " ++ cited wanted ++ " for '--algorithm'")
    complain "Valid arguments are:"
    for name in names do complain ("  - " ++ cited name)
    complain cksumUsage.hint
    return 1
  | _, some fault => cksumUsage.refuse fault
  | some algorithm, none =>
    if a.has 'l' && algorithm != "blake2b" then
      cksumUsage.complain "--length is only supported with --algorithm=blake2b"
      return 1
    let isSum := ["bsd", "sysv", "crc"].contains algorithm
    if a.has 'c' then
      if isSum && a.has 'a' then
        cksumUsage.complain "--check is not supported with --algorithm=\x7bbsd,sysv,crc\x7d"
        return 1
      let mut failed := false
      for name in if a.rest.isEmpty then ["-"] else a.rest do
        if !(← checkList cksumUsage a (digestKinds.lookup algorithm) name) then failed := true
      return statusOf failed
    let ending := lineEnd a
    if a.has 'ρ' && a.rest.length > 1 then
      cksumUsage.complain "the --raw option is not supported with multiple files"
      return 1
    if isSum then
      let line := if algorithm = "crc" then remainderLine else sumLine (algorithm = "bsd")
      if a.has 'ρ' then
        let (texts, failed) ← readInputs (plainWords "cksum") a.rest
        let raw (text : String) : List UInt8 :=
          let bytes := byteArrayOf text
          if algorithm = "crc" then Digest.bigEndian 4 (Digest.remainder bytes)
          else Digest.bigEndian 2 (if algorithm = "bsd" then Digest.turnedSum bytes
            else Digest.plainSum bytes)
        return ← finish "cksum" (String.join (texts.map fun t => ofBytes (raw t.2))) failed
      printSums "cksum" a.rest line ending
    else
      match digestLength a, digestKinds.lookup algorithm with
      | .ok size, some kind =>
        let form := if a.has 'ρ' then DigestForm.raw else if a.has 'β' then .letters else .hexadecimal
        let f : ChecksumForm :=
          { kind := kind.shortened size, form, tagged := !a.has 'υ', binary := a.has 'b', ending }
        let (texts, failed) ← readInputs (plainWords "cksum") a.rest
        finish "cksum" (String.join (texts.map fun (name, text) => f.line name text)) failed
      | .error faults, _ =>
        for fault in faults do cksumUsage.complain fault
        return 1
      | _, none => return 1

end BoardConsole.Shell.Utility
