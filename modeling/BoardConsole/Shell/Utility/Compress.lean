import BoardConsole.Shell.Deflate
import BoardConsole.Shell.Utility.Entries
import BoardConsole.Shell.Utility.Make

/-!
# Shell — Packed files

`gzip` puts packed files in the place of others, and the other way round.
-/

namespace BoardConsole.Shell.Utility

open Act

def gzipUsage : Usage :=
  { program := "gzip", letters := "acdfhklnNqrS:tv123456789ς", misuse := 1
    names := [("ascii", 'a'), ("stdout", 'c'), ("to-stdout", 'c'), ("decompress", 'd'),
      ("uncompress", 'd'), ("force", 'f'), ("keep", 'k'), ("list", 'l'), ("no-name", 'n'), ("name", 'N'),
      ("quiet", 'q'), ("silent", 'q'), ("recursive", 'r'), ("suffix", 'S'), ("test", 't'),
      ("verbose", 'v'), ("fast", '1'), ("best", '9'), ("synchronous", 'ς')] }

/-- What is to be done with files. -/
structure PackTask where
  suffix    : String
  unpacks   : Bool
  tests     : Bool
  lists     : Bool
  toOutput  : Bool
  keeps     : Bool
  force     : Bool
  recursive : Bool
  quiet     : Bool
  verbose   : Bool
  level     : Nat
  /-- Whether the name and the time are stored, or those that are stored are used. -/
  names     : Bool
  times     : Bool

/-- What has been done: the status so far, and the sums of sizes in a list. -/
structure PackState where
  status   : Nat
  packed   : Nat
  unpacked : Nat
  listed   : Nat
  /-- How much of the last file in a list is not packed bytes. -/
  header   : Nat

/-- Steps with files. -/
abbrev Packer := StateT PackState Act

/-- Says something. -/
def packSay (text : String) : Packer Unit := StateT.lift (complain text)

/-- Says that something is wrong; a warning does not hide an error. -/
def packFail (status : Nat) (text : String) : Packer Unit := do
  packSay text
  modify fun s => { s with status := if s.status = 1 || status = 1 then 1 else status }

/-- A warning, where these are wanted. -/
def packWarn (p : PackTask) (text : String) : Packer Unit := do
  if !p.quiet then packSay text
  modify fun s => { s with status := if s.status = 0 then 2 else s.status }

/-- The endings that packed files have, each with what stands there instead for others. -/
def packEndings (suffix : String) : List (String × String) :=
  [(suffix, ""), (".gz", ""), (".z", ""), (".taz", ".tar"), (".tgz", ".tar"), ("-gz", ""), ("-z", ""),
   ("_z", ""), (".Z", "")]

/-- The ending of a name, if it is one of packed files, with what stands there instead. -/
def packEnding? (suffix name : String) : Option (String × String) :=
  (packEndings suffix).find? fun (s, _) => name.endsWith s && s.length < (baseOf name).length
where
  /-- The last part of a name. -/
  baseOf (name : String) : String := (name.splitOn "/").getLastD name

/-- A share of a hundred, with one place behind the point. -/
def percentage (n : Int) (whole : Nat) : String :=
  let tenths : Int := if whole = 0 then 0
    else
      -- Rounded to the nearest, as the value of a fraction.
      let doubled := 2000 * n.natAbs + whole
      let q : Int := (doubled / (2 * whole) : Nat)
      if n < 0 then -q else q
  let text := (if tenths < 0 then "-" else "") ++ toString (tenths.natAbs / 10) ++ "." ++
    toString (tenths.natAbs % 10)
  repeated (5 - text.length) ' ' ++ text ++ "%"

/-- The members of a file, and whether something else follows them; or what is wrong. -/
def gzipMembers : (fuel : Nat) → List UInt8 → Except Deflate.GzipFault (List Deflate.GzipMember × Bool)
  | 0, _ => .ok ([], false)
  | fuel + 1, bytes => do
    let (member, rest) ← Deflate.gunzip bytes
    if rest.all (· = 0) then return ([member], false)
    if rest.take 2 != [0x1f, 0x8b] then return ([member], true)
    let (more, junk) ← gzipMembers fuel rest
    return (member :: more, junk)

/-- What is said of a file that cannot be read. -/
def gzipFaultWords (name : String) : Deflate.GzipFault → String
  | .foreign     => "\ngzip: " ++ name ++ ": not in gzip format"
  | .method k    => "gzip: " ++ name ++ ": unknown method " ++ toString k ++ " -- not supported"
  | .cut         => "\ngzip: " ++ name ++ ": unexpected end of file"
  | .broken      => "\ngzip: " ++ name ++ ": invalid compressed data--format violated"
  | .wrong sum length =>
    "\n".intercalate
      ((if sum then ["\ngzip: " ++ name ++ ": invalid compressed data--crc error"] else []) ++
        (if length then ["\ngzip: " ++ name ++ ": invalid compressed data--length error"] else []))

/-- The line of a list. -/
def packLine (p : PackTask) (m : Option Deflate.GzipMember) (time : Option Moment) (packed unpacked : Nat)
    (saved : Int) (name : String) : String :=
  let pad (n : Nat) : String := repeated (19 - (toString n).length) ' ' ++ toString n
  let sum (n : Nat) : String :=
    let digits := inBase 16 n
    repeated (8 - digits.length) '0' ++ digits
  let front := match p.verbose, m with
    | true, some m =>
      "defla " ++ sum m.sum ++ " " ++ ((time.map fun t => t.format "%b %e %H:%M").getD "") ++ " "
    | true, none => repeated 28 ' '
    | false, _   => ""
  front ++ pad packed ++ " " ++ pad unpacked ++ " " ++ percentage saved unpacked ++ " " ++ name ++ "\n"

/-- The line above a list. -/
def packHead (p : PackTask) : String :=
  if p.quiet then ""
  else
    (if p.verbose then "method  crc     date  time  " else "") ++ repeated 9 ' ' ++ "compressed " ++
      repeated 7 ' ' ++ "uncompressed  ratio uncompressed_name\n"

/-- The bytes of members that are not packed ones. -/
def headersOf (members : List Deflate.GzipMember) : Nat := members.foldl (fun n m => n + m.header) 0

/-- What comes out of bytes, with how much is saved and how much there is of it; nothing where they are
wrong, which has been said. -/
def packBytes (p : PackTask) (name : String) (stored : Option (List UInt8)) (time : Nat)
    (bytes : List UInt8) : Packer (Option (List UInt8 × Int × Nat × List Deflate.GzipMember)) := do
  if !p.unpacks then
    let out := Deflate.gzip p.level (if p.names then stored else none) (if p.times then time else 0) bytes
    let header := (Deflate.gzipHeader p.level (if p.names then stored else none) 0).length + 8
    let saved : Int := (bytes.length : Int) - ((out.length : Int) - header)
    return some (out, saved, bytes.length, [])
  match gzipMembers (bytes.length + 1) bytes with
  | .ok (members, junk) =>
    if junk then
      packWarn p ("\ngzip: " ++ name ++ ": decompression OK, trailing garbage ignored")
    let out := members.flatMap (·.bytes)
    let saved : Int := (out.length : Int) - ((bytes.length : Int) - headersOf members)
    return some (out, saved, out.length, members)
  | .error .foreign =>
    if p.force && p.toOutput then return some (bytes, 0, bytes.length, [])
    packFail 1 (gzipFaultWords name .foreign)
    return none
  | .error fault =>
    packFail 1 (gzipFaultWords name fault)
    return none

/-- Packs or unpacks the standard input. -/
def packInput (p : PackTask) : Packer Unit := do
  let text := ((← StateT.lift (readAll? 0)).toOption).getD ""
  if let some (out, _, _, members) ← packBytes p "stdin" none 0 (toBytes text) then
    if p.lists then
      if (← get).listed = 0 then StateT.lift (emit (packHead p))
      let size := text.length
      let saved : Int := (out.length : Int) - ((size : Int) - headersOf members)
      StateT.lift (emit (packLine p members.head? none size out.length saved "stdout"))
    else if !p.tests then StateT.lift (emit (ofBytes out))

/-- Whether a file may be written under a name. -/
def packMayWrite (p : PackTask) (name : String) : Packer Bool := do
  if p.force || (← StateT.lift (look false name)).toOption.isNone then return true
  packFail 2 ("gzip: " ++ name ++ " already exists;\tnot overwritten")
  return false

/-- The name of the file that comes out of another, if there is to be one. -/
def packName? (p : PackTask) (name : String) : Packer (Option String) := do
  match p.unpacks, packEnding? p.suffix name with
  | true, some (ending, other) => return some ((name.dropEnd ending.length).toString ++ other)
  | true, none =>
    if p.lists || p.tests then return some name
    if !p.recursive then packWarn p ("gzip: " ++ name ++ ": unknown suffix -- ignored")
    return none
  | false, some (ending, _) =>
    if p.verbose || (!p.recursive && !p.quiet) then
      packSay ("gzip: " ++ name ++ " already has " ++ ending ++ " suffix -- unchanged")
    return none
  | false, none => return some (name ++ p.suffix)

/-- Packs or unpacks a file. -/
def packFile (p : PackTask) (name : String) (path : Path) : Packer Unit := do
  let v ← StateT.lift volume
  let time := changedAt v path
  let seconds := (time / 1000000000).toNat
  let bytes := (contentsAt? v path).getD []
  let target ← if p.toOutput && !p.lists && !p.tests then pure (some "stdout") else packName? p name
  let some target := target | return ()
  if !p.toOutput && !p.lists && !p.tests then
    if linksTo v path > 1 && !p.force then
      let n := linksTo v path - 1
      packWarn p ("gzip: " ++ name ++ " has " ++ toString n ++ " other link" ++
        (if n = 1 then " " else "s") ++ " -- file unchanged")
      return ()
    if !(← packMayWrite p target) then return ()
  let base := (name.splitOn "/").getLastD name
  let some (out, saved, whole, members) ← packBytes p name (some (toBytes base)) seconds bytes
    | return ()
  if p.lists then
    if (← get).listed = 0 then StateT.lift (emit (packHead p))
    let zone ← StateT.lift currentZone
    let last := members.getLast?
    let moment := match last with
      | some m => if m.time = 0 then time else (m.time : Int) * 1000000000
      | none   => time
    StateT.lift (emit (packLine p last (some (Moment.ofNanos zone moment)) bytes.length whole saved target))
    modify fun s => { s with
      packed := s.packed + bytes.length, unpacked := s.unpacked + whole, listed := s.listed + 1
      header := headersOf members }
    return ()
  let share := percentage saved whole
  if p.tests then
    if p.verbose then packSay (name ++ ":\t OK")
    return ()
  if p.toOutput then
    StateT.lift (emit (ofBytes out))
    if p.verbose then packSay (name ++ ":\t" ++ share ++ " -- replaced with stdout")
    return ()
  let mode := modeAt v path
  let target := match p.unpacks && p.names, members.head?.bind (·.name) with
    | true, some stored => String.ofList (name.toList.take (name.length - base.length)) ++ ofBytes stored
    | _, _              => target
  if let .error reason ← StateT.lift (writeFile target (ofBytes out) false) then
    packFail 1 ("gzip: " ++ target ++ ": " ++ reason)
    return ()
  if let .ok made ← StateT.lift (resolve true target) then
    let restored : Int := match p.unpacks && p.times, members.head? with
      | true, some m => if m.time = 0 then time else (m.time : Int) * 1000000000
      | _, _         => time
    StateT.lift (setVolume (((← StateT.lift volume).setMode made mode).setTime made restored))
  if !p.keeps then StateT.lift (deletePath path)
  if p.verbose then
    packSay (name ++ ":\t" ++ share ++ " -- " ++ (if p.keeps then "created " else "replaced with ") ++
      target)

/-- Packs or unpacks what a name leads to. -/
def packOperand (p : PackTask) : (fuel : Nat) → String → Packer Unit
  | 0, _ => pure ()
  | fuel + 1, name => do
    if name = "-" then return ← packInput p
    let follows := p.toOutput || p.force
    let found ← StateT.lift (look follows name)
    let (name, found) ← match found with
      | .ok _ => pure (name, found)
      | .error reason =>
        if p.unpacks && reason = PathFault.missing.reason && (packEnding? p.suffix name).isNone then
          let longer := name ++ p.suffix
          pure (longer, ← StateT.lift (look follows longer))
        else pure (name, found)
    match found with
    | .error reason => packFail 1 ("gzip: " ++ name ++ ": " ++ reason)
    | .ok (.directory, path) =>
      if p.recursive then
        for entry in ← StateT.lift (namesIn path) do packOperand p fuel (below name entry)
      else packWarn p ("gzip: " ++ name ++ " is a directory -- ignored")
    | .ok (.link, _) => packFail 1 ("gzip: " ++ name ++ ": Too many levels of symbolic links")
    | .ok (.file, path) => packFile p name path
    | .ok (_, path) =>
      if p.toOutput then packFile p name path
      else packWarn p ("gzip: " ++ name ++ " is not a directory or a regular file - ignored")

/-- Packs or unpacks files, with options that stand before all others. -/
def gzipAs (options : List String) : Builtin := fun _ args => do
  match gzipUsage.read false (options ++ args) with
  | .error fault =>
    gzipUsage.complain fault
    complain "Try \x60gzip --help' for more information."
    return 1
  | .ok a =>
    gzipUsage.use (.ok a) fun a => do
      let level := ((a.options.map (·.1)).filter Char.isDigit).getLast?.map fun c => c.toNat - 48
      let unpacks := a.has 'd' || a.has 't' || a.has 'l'
      let naming := (a.options.filter fun o => o.1 = 'n' || o.1 = 'N').getLast?.map (·.1)
      let p : PackTask :=
        { suffix := (a.last? 'S').getD ".gz", unpacks, tests := a.has 't', lists := a.has 'l'
          toOutput := a.has 'c', keeps := a.has 'k', force := a.has 'f', recursive := a.has 'r'
          quiet := a.has 'q', verbose := a.has 'v' && !a.has 'q', level := level.getD 6
          names := if unpacks then naming = some 'N' else naming != some 'n'
          times := if unpacks then naming != some 'n' else naming != some 'n' }
      let run : Packer Unit := do
        if a.rest.isEmpty then packInput p else
          for name in a.rest do packOperand p greatestTreeDepth name
      let ((), s) ← run.run ⟨0, 0, 0, 0, 0⟩
      if p.lists && 1 < s.listed then
        emit (packLine p none none s.packed s.unpacked 
          ((s.unpacked : Int) - ((s.packed : Int) - s.header)) "(totals)")
      return s.status

end BoardConsole.Shell.Utility
