import BoardConsole.Shell.Utility.Date
import BoardConsole.Shell.Utility.Paths

/-!
# Shell — Making files

Directories, pipes with names, empty files, files of new names, and second names; `touch` gives files
that are there a time.
-/

namespace BoardConsole.Shell.Utility

open Act

/-! ### Directories -/

def mkdirUsage : Usage :=
  { program := "mkdir", letters := "pm:vZ", misuse := 1
    names := [("parents", 'p'), ("mode", 'm'), ("verbose", 'v'), ("context", 'Z')] }

/-- Adds a directory with the permissions that the mask leaves. -/
def addDirectory (path : Path) (mode : Option Nat) : Act Unit := do
  let mode := mode.getD (0o777 &&& (0o777 ^^^ (← process).mask))
  let v := (← volume).addDirectory path
  setVolume (if mode = 0o755 then v else v.setMode path mode)

/-- Makes a directory. Answers why it cannot be made. -/
def makeOne (parents : Bool) (mode : Option Nat) (name : String) : Act (Option String) := do
  match ← look true name with
  | .ok (.directory, _) => return if parents then none else some "File exists"
  | .ok _               => return some "File exists"
  | .error _ =>
    match ← resolve false (trimSlashes name) with
    | .error fault => return some fault.reason
    | .ok path =>
      if (kindAt? (← volume) path).isSome then return some "File exists"
      addDirectory path mode
      return none

/-- Makes a directory and those above it, and says so with some words where that is asked for. -/
def makeWithParents (words : String) (tells : Bool) (mode : Option Nat) (name : String) :
    Act (Option (String × String)) := do
  let tell (name : String) : Act Unit := do
    if tells then emit (words ++ " directory " ++ quoted name ++ "\n")
  for beginning in (beginnings name).dropLast do
    let isNew := (← look true beginning).toOption.isNone
    match ← makeOne true none beginning with
    | none => if isNew then tell beginning
    | some reason =>
      return some (beginning, if reason = "File exists" then "Not a directory" else reason)
  let isNew := (← look true name).toOption.isNone
  match ← makeOne true mode name with
  | none =>
    if isNew then tell name
    return none
  | some reason => return some (name, reason)

/-- The permissions that an option asks for, or what is said of it. -/
def modeOption (a : Arguments) (usual : Nat) : Act (Except String (Option Nat)) := do
  match a.last? 'm' with
  | none => return .ok none
  | some s =>
    match Mode.ofText? true (← process).mask usual s with
    | some mode => return .ok (some mode)
    | none      => return .error ("invalid mode " ++ cited s)

/-- Makes directories. -/
def mkdir : Builtin := fun _ args => mkdirUsage.run args fun a => do
  if a.rest.isEmpty then return ← mkdirUsage.refuse "missing operand"
  match ← modeOption a 0o777 with
  | .error fault =>
    mkdirUsage.complain fault
    return 1
  | .ok mode =>
    let refuse (name reason : String) : Act Bool := do
      mkdirUsage.complain ("cannot create directory " ++ quoted name ++ ": " ++ reason)
      return false
    forAll a.rest fun name => do
      if a.has 'p' && name != "" then
        match ← makeWithParents "mkdir: created" (a.has 'v') mode name with
        | none => return true
        | some (where_, reason) => refuse where_ reason
      else
        match ← makeOne false mode name with
        | none =>
          if a.has 'v' then emit ("mkdir: created directory " ++ quoted name ++ "\n")
          return true
        | some reason => refuse name reason

/-! ### Pipes -/

def mkfifoUsage : Usage :=
  { program := "mkfifo", letters := "m:Z", misuse := 1, names := [("mode", 'm'), ("context", 'Z')] }

/-- Makes a pipe of a name. Answers why it cannot be made. -/
def makePipe (mode : Option Nat) (name : String) : Act (Option String) := do
  match ← resolve false name with
  | .error fault => return some fault.reason
  | .ok path =>
    if (kindAt? (← volume) path).isSome then return some "File exists"
    let mode := mode.getD (0o666 &&& (0o777 ^^^ (← process).mask))
    let v := (← volume).addPipe path
    setVolume (if mode = 0o644 then v else v.setMode path mode)
    return none

/-- Makes pipes with names. -/
def mkfifo : Builtin := fun _ args => mkfifoUsage.run args fun a => do
  if a.rest.isEmpty then return ← mkfifoUsage.refuse "missing operand"
  match ← modeOption a 0o666 with
  | .error fault =>
    mkfifoUsage.complain (if fault.startsWith "invalid mode" then "invalid mode" else fault)
    return 1
  | .ok mode =>
    forAll a.rest fun name => do
      match ← makePipe mode name with
      | none => return true
      | some reason =>
        mkfifoUsage.complain ("cannot create fifo " ++ quoted name ++ ": " ++ reason)
        return false

def mknodUsage : Usage :=
  { program := "mknod", letters := "m:Z", misuse := 1, names := [("mode", 'm'), ("context", 'Z')] }

/-- Makes a pipe with a name; other special files cannot be made. -/
def mknod : Builtin := fun _ args => mknodUsage.run args fun a => do
  match a.rest with
  | []     => mknodUsage.refuse "missing operand"
  | [name] => mknodUsage.refuse ("missing operand after " ++ cited name)
  | name :: kind :: more =>
    if kind.startsWith "p" then
      match more with
      | extra :: _ =>
        mknodUsage.complain ("extra operand " ++ cited extra)
        if more.length = 2 then complain "Fifos do not have major and minor device numbers."
        complain mknodUsage.hint
        return 1
      | [] =>
        match ← makePipe ((a.last? 'm').bind (Mode.ofText? false 0 0o666)) name with
        | none => return 0
        | some reason =>
          mknodUsage.complain (shownName name ++ ": " ++ reason)
          return 1
    else if more.length < 2 then
      mknodUsage.complain ("missing operand after " ++ cited ((kind :: more).getLastD ""))
      complain "Special files require major and minor device numbers."
      complain mknodUsage.hint
      return 1
    else if !(kind.startsWith "b" || kind.startsWith "c" || kind.startsWith "u") then
      mknodUsage.refuse ("invalid device type " ++ cited kind)
    else
      mknodUsage.complain (shownName name ++ ": Operation not permitted")
      return 1

/-! ### Times -/

def touchUsage : Usage :=
  { program := "touch", letters := "acd:fhmr:t:τ:", misuse := 1
    names := [("no-create", 'c'), ("date", 'd'), ("reference", 'r'), ("no-dereference", 'h'),
      ("time", 'τ')] }

/-- The time that digits spell, in nanoseconds: a month, a day, an hour and a minute, a year before them
and seconds after a point. -/
def stampTime? (now : Moment) (s : String) : Option Int := do
  let (digits, seconds) ← match s.splitOn "." with
    | [d]    => some (d, "00")
    | [d, r] => if r.length = 2 then some (d, r) else none
    | _      => none
  let cs := digits.toList
  if !(cs.all Char.isDigit && seconds.toList.all Char.isDigit) then none
  let two (n : Nat) : Nat := Arithmetic.valueOf 10 ((cs.drop n).take 2)
  let (year, start) : Int × Nat ← match cs.length with
    | 8  => some (now.date.year, 0)
    | 10 => some (((two 0 : Nat) : Int) + (if two 0 < 69 then 2000 else 1900), 2)
    | 12 => some (((two 0 * 100 + two 2 : Nat) : Int), 4)
    | _  => none
  let (month, day, hour, minute) := (two start, two (start + 2), two (start + 4), two (start + 6))
  let second := Arithmetic.valueOf 10 seconds.toList
  let days := Phrase.daysOf year month day
  if month = 0 || 12 < month || day = 0 || (CivilDay.ofDays days).month != month || 23 < hour ||
      59 < minute || 60 < second then none
  return (days * secondsInDay + (hour * 3600 + minute * 60 + second : Nat) - now.zone.ahead) *
    nanosInSecond

/-- The time that options ask for, or what is said of them. -/
def touchTime (a : Arguments) : Act (Except String (Option Int)) := do
  let now ← presentMoment
  let stamps := (a.options.filter (·.1 = 't')).map (·.2)
  if let some s := stamps.find? fun s => (stampTime? now s).isNone then
    return .error ("invalid date format " ++ cited s)
  let reference : Except String (Option Moment) ← match a.last? 'r' with
    | none => pure (.ok none)
    | some name => do
      match ← look (!a.has 'h') name with
      | .error reason =>
        pure (.error ("failed to get attributes of " ++ quoted name ++ ": " ++ reason))
      | .ok (_, path) =>
        pure (.ok (some (Moment.ofNanos now.zone (changedAt (← volume) path))))
  match reference, a.last? 'd', a.last? 't' with
  | .error fault, _, _ => return .error fault
  | .ok base, some phrase, none =>
    match Phrase.nanos? (base.getD now) phrase with
    | some n => return .ok (some n)
    | none   => return .error ("invalid date format " ++ cited phrase)
  | .ok none, none, some s =>
    match stampTime? now s with
    | some n => return .ok (some n)
    | none   => return .error ("invalid date format " ++ cited s)
  | .ok (some m), none, none => return .ok (some (m.epoch * nanosInSecond + m.nano))
  | .ok none, none, none => return .ok none
  | _, _, _ => return .error "cannot specify times from more than one source"

/-- Makes files that are not there, and gives those that are a time. -/
def touch : Builtin := fun _ args => touchUsage.run args fun a => do
  match ← touchTime a with
  | .error fault =>
    if fault.startsWith "cannot specify" then return ← touchUsage.refuse fault
    touchUsage.complain fault
    return 1
  | .ok time =>
    if a.rest.isEmpty then return ← touchUsage.refuse "missing file operand"
    -- Only the time of the last change is known.
    let word := (a.last? 'τ').getD ""
    let changes := !(a.has 'a' || ["access", "atime", "use"].contains word) || a.has 'm'
    forAll a.rest fun name => do
      let refuse (what reason : String) : Act Bool := do
        touchUsage.complain (what ++ quoted name ++ ": " ++ reason)
        return false
      if name = "-" then return true
      match ← resolve (!a.has 'h') name with
      | .error fault =>
        if a.has 'c' && fault = .missing then return true
        let atEnd := Volume.endsInDirectory name &&
          (← look true (directoryOf (trimSlashes name))).toOption.any (·.1 = .directory)
        if atEnd && fault = .missing then refuse "setting times of " fault.reason
        else refuse "cannot touch " fault.reason
      | .ok path =>
        let v ← volume
        match kindAt? v path, v.contents? path with
        | none, _ =>
          if a.has 'c' || a.has 'h' then
            if a.has 'c' then return true
            return ← refuse "setting times of " PathFault.missing.reason
          createFile path [] 0o666
        | some _, some bytes => if changes && time.isNone then setVolume (v.put path bytes)
        | some _, none => pure ()
        if changes then
          if let some n := time then setVolume ((← volume).setTime path n)
        return true

/-! ### New names -/

def mktempUsage : Usage :=
  { program := "mktemp", letters := "dqup:tσ:π::", misuse := 1
    names := [("directory", 'd'), ("quiet", 'q'), ("dry-run", 'u'), ("tmpdir", 'π'), ("suffix", 'σ')] }

/-- A text in which the last marks are replaced by a number. -/
def withNumber (template : String) (n : Nat) : Option String :=
  let cs := template.toList.reverse
  let after := cs.takeWhile (· != 'X')
  let marks := (cs.drop after.length).takeWhile (· = 'X')
  if marks.length < 3 then none
  else
    let digits := Decimal.digitsOf n marks.length
    some (String.ofList
      ((cs.drop (after.length + marks.length)).reverse ++ digits.take marks.length ++ after.reverse))

/-- Makes a file or a directory of a new name, and prints it. -/
def mktemp : Builtin := fun _ args => mktempUsage.run args fun a => do
  if a.rest.length > 1 then return ← mktempUsage.refuse "too many templates"
  let refuse (message : String) : Act Nat := do
    if !a.has 'q' then mktempUsage.complain message
    return 1
  let template := a.rest.headD "tmp.XXXXXXXXXX"
  let ofTheUser := ← value? "TMPDIR"
  let usual := match ofTheUser with
    | none | some "" => "/tmp"
    | some s         => s
  let given := match (a.options.filter fun o => o.1 = 'p' || o.1 = 'π').getLast? with
    | some (_, "") => some usual
    | some (_, s)  => some s
    | none         => none
  let inDirectory := a.rest.isEmpty || a.has 't' || given.isSome
  let ending := a.last? 'σ'
  if ending.isSome && !template.endsWith "X" then
    return ← refuse ("with --suffix, template " ++ cited template ++ " must end in X")
  let full := template ++ ending.getD ""
  let after := (full.toList.reverse.takeWhile (· != 'X')).reverse
  if after.contains '/' then
    return ← refuse ("invalid suffix " ++ cited (String.ofList after) ++
      ", contains directory separator")
  if inDirectory && !a.has 't' && template.startsWith "/" then
    return ← refuse ("invalid template, " ++ cited template ++
      "; with --tmpdir, it may not be absolute")
  if a.has 't' && template.contains '/' then
    return ← refuse ("invalid template, " ++ cited template ++ ", contains directory separator")
  let directory := if a.has 't' && ofTheUser.isSome then usual else given.getD usual
  let whole := if inDirectory then below directory full else full
  let n ← newNumber
  match withNumber full n with
  | none => refuse ("too few X's in template " ++ cited template)
  | some made =>
    let name := if inDirectory then below directory made else made
    match ← resolve true name with
    | .error fault =>
      let what := if a.has 'd' then "directory" else "file"
      refuse ("failed to create " ++ what ++ " via template " ++ cited whole ++ ": " ++ fault.reason)
    | .ok path =>
      if !a.has 'u' then
        if a.has 'd' then addDirectory path (some 0o700) else createFile path [] 0o600
      printChecked "mktemp" (name ++ "\n")

/-! ### Second names -/

def linkUsage : Usage := { program := "link", letters := "", names := [], misuse := 1 }

/-- Gives a file a second name. -/
def link : Builtin := fun _ args => linkUsage.run args fun a => do
  match a.rest with
  | []     => linkUsage.refuse "missing operand"
  | [name] => linkUsage.refuse ("missing operand after " ++ cited name)
  | _ :: _ :: extra :: _ => linkUsage.refuse ("extra operand " ++ cited extra)
  | [source, name] =>
    let refuse (reason : String) : Act Nat := do
      linkUsage.complain ("cannot create link " ++ quoted name ++ " to " ++ quoted source ++ ": " ++
        reason)
      return 1
    match ← look false source, ← resolve false name with
    | .error reason, _ => refuse reason
    | _, .error fault => refuse fault.reason
    | .ok (kind, old), .ok path =>
      if kind = .directory then refuse "Operation not permitted"
      else if (kindAt? (← volume) path).isSome then refuse "File exists"
      else
        setVolume ((← volume).share old path)
        return 0

end BoardConsole.Shell.Utility
