import BoardConsole.Shell.Utility.Make

/-!
# Shell — Copying and moving files

`cp` copies files and trees, `install` copies files with permissions of their own, and `mv` gives files
other names. What is in the way is overwritten, backed up or left alone.
-/

namespace BoardConsole.Shell.Utility

open Act

/-! ### How files are copied -/

/-- What a copy is. -/
inductive CopyForm where
  | contents
  | secondName
  | symbolicLink
  /-- Only the permissions and the time. -/
  | attributes
deriving DecidableEq

/-- Which links are followed. -/
inductive Following where
  | never
  | operands
  | always
deriving DecidableEq

/-- What is done about a file that is in the way. -/
inductive Overwriting where
  | always
  | asked
  | never
deriving DecidableEq

/-- How files are copied. -/
structure Copying where
  usage        : Usage
  form         : CopyForm
  recursive    : Bool
  follows      : Following
  keepsMode    : Bool
  keepsTime    : Bool
  keepsNames   : Bool
  overwrites   : Overwriting
  onlyNewer    : Bool
  forces       : Bool
  removesFirst : Bool
  backup       : Option Backup
  verbose      : Bool
  /-- The permissions of what is new, if they are not those of the source. -/
  mode         : Option Nat

/-- What has been copied: the paths that were made for operands, and the paths of copies by the numbers
of their sources. -/
structure CopyState where
  made   : List Path
  copies : List (Nat × Path)

abbrev CopyAct := StateT CopyState Act

/-- Refuses with a message. -/
def Copying.refuse (c : Copying) (message : String) : CopyAct Bool := do
  c.usage.complain message
  return false

/-- Gives a copy what it keeps of its source. -/
def Copying.keep (c : Copying) (source target : Path) : Act Unit := do
  let v ← volume
  if c.keepsMode then setVolume ((← volume).setMode target (modeAt v source))
  if c.keepsTime then setVolume ((← volume).setTime target (changedAt v source))

/-- The permissions that a copy gets at first. -/
def Copying.modeFor (c : Copying) (source : Path) : Act Nat := do
  return c.mode.getD (modeAt (← volume) source &&& (0o7777 ^^^ (← process).mask))

/-- Whether a name leads to an object that the permissions let nobody but the owner overwrite; the user
is asked about what is in the way. -/
def Copying.mayOverwrite (c : Copying) (name : String) : Act Bool := do
  match c.overwrites with
  | .always => return true
  | .never  => return false
  | .asked  => confirm (c.usage.program ++ ": overwrite " ++ quoted name ++ "? ")

/-- Says what was copied. -/
def Copying.tell (c : Copying) (source name : String) (backup : Option String) : Act Unit := do
  if c.verbose then
    let behind := match backup with
      | some b => " (backup: " ++ quoted b ++ ")"
      | none   => ""
    emit (quoted source ++ " -> " ++ quoted name ++ behind ++ "\n")

/-- Copies what is not a directory to a path where nothing or a file is. -/
def Copying.copyFile (c : Copying) (source name : String) (kind : Kind) (path target : Path) :
    CopyAct Bool := do
  let v ← Act.volume
  let there := if (descriptorNamed? name).isSome then some .device else kindAt? v target
  let number := numberAt v path
  let links := linksTo v path
  let known := (← get).copies.lookup number
  match c.form, known with
  | .contents, some earlier =>
    if c.keepsNames && 1 < links then
      if there.isSome then deletePath target
      setVolume ((← Act.volume).share earlier target)
      return true
    else pure ()
  | _, _ => pure ()
  let note : CopyAct Unit := modify fun s => { s with copies := (number, target) :: s.copies }
  match c.form, kind with
  | .attributes, _ =>
    if there.isNone then createFile target [] 0o666
    c.keep path target
    return true
  | .secondName, _ =>
    if there.isSome && !c.forces then
      return ← c.refuse ("cannot create hard link " ++ quoted name ++ " to " ++ quoted source ++
        ": File exists")
    if there.isSome then deletePath target
    setVolume ((← Act.volume).share path target)
    return true
  | .symbolicLink, _ =>
    if !source.startsWith "/" && directoryOf name != "." then
      return ← c.refuse (name ++ ": can make relative symbolic links only in current directory")
    if there.isSome && !c.forces then
      return ← c.refuse ("cannot create symbolic link " ++ quoted name ++ " to " ++ quoted source ++
        ": File exists")
    if there.isSome then deletePath target
    setVolume ((← Act.volume).addLink target (toWorld source))
    return true
  | .contents, .link =>
    if there.isSome then deletePath target
    setVolume ((← Act.volume).addLink target ((v.linkTarget? path).getD ""))
    if c.keepsTime then c.keep path target
    note
    return true
  | .contents, _ =>
    if kind = .pipe && c.recursive then
      if there.isSome then deletePath target
      let mode ← c.modeFor path
      setVolume (((← Act.volume).addPipe target).setMode target mode)
      c.keep path target
      return true
    let read ←
      if kind = .file then pure (.ok (ofBytes ((contentsAt? v path).getD [])))
      else readFile source
    match read with
    | .error reason => c.refuse ("cannot open " ++ quoted source ++ " for reading: " ++ reason)
    | .ok text =>
      match there with
      | some .file =>
        if (v.contents? target).isSome then
          setVolume ((← Act.volume).put target (toBytes text))
        else return ← c.refuse ("cannot create regular file " ++ quoted name ++ ": Permission denied")
      | some _ =>
        match ← writeFile name text false with
        | .ok ()        => pure ()
        | .error reason => return ← c.refuse ("error writing " ++ quoted name ++ ": " ++ reason)
      | none =>
        let mode ← c.modeFor path
        let v := (← Act.volume).put target (toBytes text)
        setVolume (if mode = 0o644 then v else v.setMode target mode)
      if there.isNone || there = some .file then
        if let some mode := c.mode then setVolume ((← Act.volume).setMode target mode)
        c.keep path target
      note
      return true

/-- Copies a source to a name. -/
def Copying.copy (c : Copying) (isOperand : Bool) : (fuel : Nat) → (source name : String) → CopyAct Bool
  | 0, _, _ => return true
  | fuel + 1, source, name => do
    let follows : Bool := c.follows = .always || (c.follows = .operands && isOperand)
    match ← look follows source with
    | .error reason => c.refuse ("cannot stat " ++ quoted source ++ ": " ++ reason)
    | .ok (kind, path) =>
      if kind = .directory && !c.recursive then
        return ← c.refuse ((if c.usage.program = "cp" then "-r not specified; " else "") ++
          "omitting directory " ++ quoted source)
      let keepsLink : Bool := kind = .link || c.form = .symbolicLink || c.form = .secondName
      let last := if kind = .directory then trimSlashes name else name
      match ← resolve (!keepsLink) last with
      | .error fault =>
        let dangling : Bool := kind != .directory && fault = .missing &&
          (← look false last).toOption.any (·.1 = .link)
        if dangling then c.refuse ("not writing through dangling symlink " ++ quoted name)
        else if fault = .notADirectory && !Volume.endsInDirectory name then
          c.refuse ("cannot stat " ++ quoted name ++ ": " ++ fault.reason)
        else
          let what := if kind = .directory then "directory " else if kind = .link then "symbolic link "
            else "regular file "
          let reason := if Volume.endsInDirectory name && fault = .missing &&
            (← look true (directoryOf (trimSlashes name))).toOption.any (·.1 = .directory)
            then PathFault.notADirectory.reason else fault.reason
          c.refuse ("cannot create " ++ what ++ quoted name ++ ": " ++ reason)
      | .ok target =>
        let v ← Act.volume
        let there := if (descriptorNamed? name).isSome then some .device else kindAt? v target
        let isDangling : Bool := there.isNone && kind = .file && (← look false name).toOption.any (·.1 = .link)
        if isDangling && !c.removesFirst then
          return ← c.refuse ("not writing through dangling symlink " ++ quoted name)
        let same : Bool := there.isSome && (path = target ||
          (kind != .directory && there != some .directory && (v.namesOf path).contains target))
        if same && kind != .directory then
          if c.form = .secondName then return true
          if path != target && (c.backup.isSome || c.removesFirst) then pure ()
          else return ← c.refuse (quoted source ++ " and " ++ quoted name ++ " are the same file")
        if same && kind = .directory then
          return ← c.refuse (quoted source ++ " and " ++ quoted name ++ " are the same file")
        if kind != .directory && there = some .directory then
          return ← c.refuse ("cannot overwrite directory " ++ quoted name ++ " with non-directory")
        if kind = .directory && there.any (· != .directory) then
          return ← c.refuse ("cannot overwrite non-directory " ++ quoted name ++ " with directory " ++
            quoted source)
        if kind != .directory then
          if there.isSome then
            if c.onlyNewer && changedAt v path ≤ changedAt v target then return true
            if !(← c.mayOverwrite name) then return true
            if isOperand && (← get).made.contains target then
              return ← c.refuse ("will not overwrite just-created " ++ quoted name ++ " with " ++
                quoted source)
          let mut backup := none
          if there.isSome && (there = some .file || there = some .link || there = some .pipe) then
            match c.backup with
            | some b => backup := some (← b.make name target)
            | none =>
              if c.removesFirst then
                deletePath target
                if c.verbose then emit ("removed " ++ quoted name ++ "\n")
          if Volume.endsInDirectory name && there.isNone then
            return ← c.refuse ("cannot create regular file " ++ quoted name ++ ": Not a directory")
          if backup.isSome && (kindAt? (← Act.volume) path).isNone then
            -- The source was the file that was in the way.
            match ← look true (backup.getD "") with
            | .ok (k, p) =>
              c.tell source name backup
              return ← c.copyFile source name k p target
            | .error _ => return true
          c.tell source name backup
          let good ← c.copyFile source name kind path target
          if isOperand then modify fun s => { s with made := target :: s.made }
          return good
        else
          if there.isNone then
            let mode ← c.modeFor path
            addDirectory target (some mode)
            c.tell source name none
          let number (n : String) : Nat := numberAt v (pathIn v path n)
          let names := (← namesIn path).mergeSort fun a b => number a ≤ number b
          let mut good := true
          for n in names do
            if pathIn (← Act.volume) path n = target then
              c.usage.complain ("cannot copy a directory, " ++ quoted source ++ ", into itself, " ++
                quoted name)
              good := false
            else if !(← c.copy false fuel (below source n) (below name n)) then good := false
          if path.isPrefixOf target && path != target && !names.any fun n =>
              pathIn v path n = target then
            if path.length + 1 < target.length then
              c.usage.complain ("cannot copy a directory, " ++ quoted source ++ ", into itself, " ++
                quoted name)
              good := false
          c.keep path target
          return good

/-! ### Options -/

def cpUsage : Usage :=
  { program := "cp", letters := "abdfilnprst:uvxHLPRTS:Zβ::επνρσ:δ::τυ:φ::γ", misuse := 1
    names := backupNames ++ [("archive", 'a'), ("attributes-only", 'ε'), ("copy-contents", 'γ'),
      ("dereference", 'L'), ("force", 'f'), ("interactive", 'i'), ("link", 'l'), ("no-clobber", 'n'),
      ("no-dereference", 'P'), ("no-preserve", 'υ'), ("no-target-directory", 'T'),
      ("one-file-system", 'x'), ("parents", 'π'), ("preserve", 'δ'), ("recursive", 'r'),
      ("remove-destination", 'ρ'), ("sparse", 'σ'), ("reflink", 'φ'), ("strip-trailing-slashes", 'τ'),
      ("symbolic-link", 's'), ("target-directory", 't'), ("update", 'u'), ("verbose", 'v')] }

/-- The words for what a copy keeps, each with whether it is the mode, the time or the names. -/
def keepWords : List (String × (Bool × Bool × Bool)) :=
  [("mode", (true, false, false)), ("timestamps", (false, true, false)),
   ("ownership", (false, false, false)), ("links", (false, false, true)),
   ("context", (false, false, false)), ("xattr", (false, false, false)), ("all", (true, true, true))]

/-- What a copy keeps, by options in turn. -/
def keptBy (a : Arguments) : Bool × Bool × Bool :=
  a.options.foldl
    (fun (mode, time, names) (letter, text) =>
      let words := (text.splitOn ",").filterMap (wordMeant? keepWords)
      match letter with
      | 'a' => (true, true, true)
      | 'p' => (true, true, names)
      | 'd' => (mode, time, true)
      | 'δ' =>
        if text = "" then (true, true, names)
        else words.foldl (fun (m, t, n) w => (m || w.1, t || w.2.1, n || w.2.2)) (mode, time, names)
      | 'υ' =>
        words.foldl (fun (m, t, n) w => (m && !w.1, t && !w.2.1, n && !w.2.2)) (mode, time, names)
      | _ => (mode, time, names)) (false, false, false)

/-- Which links are followed, by options in turn. -/
def followedBy (a : Arguments) (recursive : Bool) : Following :=
  let given := a.options.filterMap fun (letter, _) =>
    match letter with
    | 'a' | 'd' | 'P' => some Following.never
    | 'H' => some .operands
    | 'L' => some .always
    | _   => none
  given.getLast?.getD (if recursive then .never else .always)

/-- What is done about files that are in the way, by the last option that says so. -/
def overwritingBy (a : Arguments) (forceCounts : Bool) : Overwriting :=
  let given := a.options.filterMap fun (letter, _) =>
    match letter with
    | 'i' => some Overwriting.asked
    | 'n' => some .never
    | 'f' => if forceCounts then some .always else none
    | _   => none
  given.getLast?.getD .always

/-- How `cp` copies, or a status. -/
def copyingOf (a : Arguments) : Act (Except Nat Copying) := do
  match ← backupOf? a with
  | none => return .error (← refuseBackup cpUsage a)
  | some backup =>
    let recursive := a.has 'r' || a.has 'R' || a.has 'a'
    let (keepsMode, keepsTime, keepsNames) := keptBy a
    let form : CopyForm := if a.has 'l' then .secondName else if a.has 's' then .symbolicLink
      else if a.has 'ε' then .attributes else .contents
    for (letter, text) in a.options do
      if (letter = 'δ' && text != "") || letter = 'υ' then
        for word in text.splitOn "," do
          if (wordMeant? keepWords word).isNone then
            return .error (← refuseWordOf cpUsage
              (if letter = 'υ' then "--no-preserve" else "--preserve") word (keepWords.map (·.1)))
    if a.has 'l' && a.has 's' then
      return .error (← cpUsage.refuse "cannot make both hard and symbolic links")
    if backup.isSome && overwritingBy a false = .never then
      return .error (← cpUsage.refuse "options --backup and --no-clobber are mutually exclusive")
    let mask := (← process).mask
    return .ok
      { usage := cpUsage, form, recursive, follows := followedBy a (recursive || a.has 'l')
        keepsMode, keepsTime, keepsNames, overwrites := overwritingBy a false
        onlyNewer := a.has 'u', forces := a.has 'f'
        removesFirst := a.has 'ρ', backup, verbose := a.has 'v'
        mode := if a.has 'υ' && !keepsMode then some (0o666 &&& (0o777 ^^^ mask)) else none }

/-- Copies files. -/
def cp : Builtin := fun _ args => cpUsage.run args fun a => do
  match ← copyingOf a with
  | .error status => return status
  | .ok c =>
    match ← destination cpUsage a with
    | .error status    => return status
    | .ok (sources, d) =>
      let run (act : CopyAct Nat) : Act Nat := return (← act.run ⟨[], []⟩).1
      let copyAll (target : String → CopyAct (Option String)) : Act Nat := run do
        let mut failed := false
        for source in sources do
          let source := if a.has 'τ' then trimSlashes source else source
          match ← target source with
          | none      => failed := true
          | some name => if !(← c.copy true greatestTreeDepth source name) then failed := true
        return statusOf failed
      if a.has 'π' then
        match d with
        | .named _ => cpUsage.refuse "with --parents, the destination must be a directory"
        | .into directory =>
          copyAll fun source => do
            let name := below directory (String.ofList ((trimSlashes source).toList.dropWhile (· = '/')))
            for beginning in (beginnings (directoryOf source)).filter (· != ".") do
              let above := below directory (String.ofList (beginning.toList.dropWhile (· = '/')))
              if (← look true above).toOption.isNone then
                let _ ← makeOne true none above
                c.tell beginning above none
            return some name
      else copyAll fun source => return some (d.nameFor source)

/-! ### Installing -/

def installUsage : Usage :=
  { program := "install", letters := "bcCdDg:m:o:pst:TvS:Zβ::σ:π", misuse := 1
    names := backupNames ++ [("compare", 'C'), ("directory", 'd'), ("group", 'g'), ("mode", 'm'),
      ("no-target-directory", 'T'), ("owner", 'o'), ("preserve-timestamps", 'p'), ("strip", 's'),
      ("strip-program", 'σ'), ("target-directory", 't'), ("verbose", 'v')] }

/-- Makes directories with permissions of their own. -/
def installDirectories (a : Arguments) (mode : Nat) : Act Nat := do
  if a.rest.isEmpty then return ← installUsage.refuse "missing file operand"
  forAll a.rest fun name => do
    for beginning in beginnings name do
      if (← look true beginning).toOption.isNone then
        match ← makeOne true (some 0o755) beginning with
        | none =>
          if a.has 'v' then emit ("install: creating directory " ++ quoted beginning ++ "\n")
        | some reason =>
          installUsage.complain ("cannot create directory " ++ quoted beginning ++ ": " ++ reason)
          return false
    match ← look true name with
    | .ok (.directory, path) =>
      setVolume ((← volume).setMode path mode)
      return true
    | _ =>
      installUsage.complain ("cannot create directory " ++ quoted name ++ ": File exists")
      return false

/-- Copies files with permissions of their own. -/
def install : Builtin := fun _ args => installUsage.run args fun a => do
  let mode? := (a.last? 'm').map (Mode.ofText? (a.has 'd') 0 0)
  match mode?, ← backupOf? a with
  | some none, _ =>
    installUsage.complain ("invalid mode " ++ cited ((a.last? 'm').getD ""))
    return 1
  | _, none =>
    refuseBackup installUsage a
  | mode?, some backup =>
    let mode := (mode?.getD none).getD 0o755
    if a.has 'd' then
      if a.has 't' then
        installUsage.complain "target directory not allowed when installing a directory"
        return 1
      return ← installDirectories a mode
    if a.has 'D' then
      let above := match a.last? 't', a.rest.getLast? with
        | some directory, _ => some directory
        | none, some last   => if 1 < a.rest.length then some (directoryOf last) else none
        | none, none        => none
      if let some directory := above then
        match ← makeWithParents "install: creating" (a.has 'v') (some 0o755) directory with
        | some (name, reason) =>
          if reason != "File exists" then
            installUsage.complain ("cannot create directory " ++ quoted name ++ ": " ++ reason)
            return 1
        | none => pure ()
    match ← destination installUsage a with
    | .error status    => return status
    | .ok (sources, d) =>
      let c : Copying :=
        { usage := installUsage, form := .contents, recursive := false, follows := .always
          keepsMode := false, keepsTime := a.has 'p', keepsNames := false, overwrites := .always
          onlyNewer := false, forces := true, removesFirst := true, backup, verbose := a.has 'v'
          mode := some mode }
      let act : CopyAct Nat := do
        let mut failed := false
        for source in sources do
          if !(← c.copy true 1 source (d.nameFor source)) then failed := true
        return statusOf failed
      return (← act.run ⟨[], []⟩).1

/-! ### Moving -/

def mvUsage : Usage :=
  { program := "mv", letters := "bfint:uvTS:Zβ::τ", misuse := 1
    names := backupNames ++ [("force", 'f'), ("interactive", 'i'), ("no-clobber", 'n'),
      ("no-target-directory", 'T'), ("strip-trailing-slashes", 'τ'), ("target-directory", 't'),
      ("update", 'u'), ("verbose", 'v')] }

/-- Moves a source to a name. Of paths that operands were moved to before, nothing is overwritten. -/
def moveTo (a : Arguments) (backup : Option Backup) (made : List Path) (source name : String) :
    Act (Bool × List Path) := do
  let refuse (message : String) : Act (Bool × List Path) := do
    mvUsage.complain message
    return (false, made)
  let given := source
  let source := if a.has 'τ' then trimSlashes source else source
  match ← look false source with
  | .error reason => refuse ("cannot stat " ++ quoted source ++ ": " ++ reason)
  | .ok (kind, path) =>
    let blocked (reason : String) : Act (Bool × List Path) :=
      refuse ("cannot move " ++ quoted source ++ " to " ++ quoted name ++ ": " ++ reason)
    let isLink := (← look false (trimSlashes given)).toOption.any (·.1 = .link)
    if Volume.endsInDirectory given && (kind != .directory || isLink) then
      return ← blocked PathFault.notADirectory.reason
    match ← resolve false (if kind = .directory then trimSlashes name else name) with
    | .error fault =>
      let reason := if Volume.endsInDirectory name && fault = .missing &&
        (← look true (directoryOf (trimSlashes name))).toOption.any (·.1 = .directory)
        then PathFault.notADirectory.reason else fault.reason
      if fault = .notADirectory && !Volume.endsInDirectory name then
        refuse ("cannot stat " ++ quoted name ++ ": " ++ reason)
      else blocked reason
    | .ok target =>
      let v ← volume
      let there := kindAt? v target
      let same : Bool := path = target || (kind = .file && (v.namesOf path).contains target)
      if same then
        refuse (quoted source ++ " and " ++ quoted name ++ " are the same file")
      else if kind = .directory && path.isPrefixOf target then
        refuse ("cannot move " ++ quoted source ++ " to a subdirectory of itself, " ++ quoted name)
      else
        if there.isSome && kind != .directory then
          if a.has 'u' && changedAt v path ≤ changedAt v target then return (true, made)
        if there.isSome then
          match overwritingBy a true with
          | .always => pure ()
          | .never  => return (true, made)
          | .asked =>
            if !(← confirm ("mv: overwrite " ++ quoted name ++ "? ")) then return (true, made)
        if kind != .directory && there = some .directory then
          return ← refuse ("cannot overwrite directory " ++ quoted name ++ " with non-directory")
        if kind = .directory && there.any (· != .directory) && backup.isNone then
          return ← refuse ("cannot overwrite non-directory " ++ quoted name ++ " with directory " ++
            quoted source)
        if kind != .directory && made.contains target then
          return ← refuse ("will not overwrite just-created " ++ quoted name ++ " with " ++
            quoted source)
        if Volume.endsInDirectory name && kind != .directory && there.isNone then
          return ← blocked PathFault.notADirectory.reason
        let kept ← match there, backup with
          | some _, some b => do pure (some (← b.make (trimSlashes name) target))
          | _, _           => pure none
        if there = some .directory && kept.isNone && (← hasEntries target) then
          return ← refuse ("cannot overwrite " ++ quoted name ++ ": Directory not empty")
        movePath path target
        if a.has 'v' then
          let behind := match kept with | some b => " (backup: " ++ quoted b ++ ")" | none => ""
          emit ("renamed " ++ quoted source ++ " -> " ++ quoted name ++ behind ++ "\n")
        return (true, target :: made)

/-- Moves files. -/
def mv : Builtin := fun _ args => mvUsage.run args fun a => do
  match ← backupOf? a with
  | none =>
    refuseBackup mvUsage a
  | some backup =>
    if backup.isSome && overwritingBy a true = .never then
      return ← mvUsage.refuse "options --backup and --no-clobber are mutually exclusive"
    match ← destination mvUsage a with
    | .error status    => return status
    | .ok (sources, d) =>
      let mut failed := false
      let mut made : List Path := []
      for source in sources do
        let (good, paths) ← moveTo a backup made source (d.nameFor source)
        made := paths
        if !good then failed := true
      return statusOf failed

end BoardConsole.Shell.Utility
