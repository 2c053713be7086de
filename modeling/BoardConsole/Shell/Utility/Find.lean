import BoardConsole.Shell.Utility.Search

/-!
# Shell — Searching directories

A search goes through what lies below some directories, in the order of the names, and does what its
conditions say.
-/

namespace BoardConsole.Shell.Search

open Utility Act

/-- What a search has found and done so far. -/
structure Found where
  /-- What was printed, last first. -/
  out     : List String := []
  /-- The names for each command that is run for many files: the directory of the names, and the
  names, last first. -/
  kept    : List (Nat × String × List String) := []
  failed  : Bool := false
  /-- Whether what lies below is left out. -/
  pruned  : Bool := false
  quits   : Bool := false

/-- Searches, keeping what was found. -/
abbrev Searcher := StateT Found Act

/-- How a search is made. -/
structure Setting where
  runner : Runner
  plan   : Plan
  now    : Int
  zone   : Zone

/-- Prints what was found so far, so that a command comes after it. -/
def flush : Searcher Unit := do
  let found ← get
  set { found with out := [] }
  StateT.lift (print (String.join found.out.reverse))

/-- Writes a text. -/
def put (out : Outlet) (text : String) : Searcher Unit := do
  match out with
  | none      => modify fun f => { f with out := text :: f.out }
  | some name =>
    let _ ← StateT.lift (writeFile name text true)

def fail : Searcher Unit := modify ({ · with failed := true })

/-- A command with a name in the places that are marked for it. -/
def withName (name : String) (words : List String) : List String :=
  words.map fun w => w.replace "\x7b\x7d" name

/-- The directory of a file, and its name from there. -/
def insideName (name : String) : String × String :=
  let whole := trimSlashes name
  if whole = "/" then ("/", "/") else (directoryOf whole, "./" ++ lastComponent whole)

/-- Runs a command, in a directory if one is given. -/
def launchIn (r : Runner) (directory : Option String) (words : List String) :
    Act (Except Unrun Nat) := do
  match directory with
  | none => launch r words
  | some name =>
    match ← resolve true name with
    | .error _ => launch r words
    | .ok path =>
      let outer ← process
      let directoryName := ofWorld (Volume.nameOf ((← volume).absolute path))
      modifyProcess ({ · with directory := path, directoryName })
      ensuring (launch r words) (modifyProcess ({ · with
        directory := outer.directory, directoryName := outer.directoryName }))

/-- Runs a command, and answers whether it went well. -/
def runWords (s : Setting) (directory : Option String) (words : List String) : Searcher Bool := do
  flush
  match ← StateT.lift (launchIn s.runner directory words) with
  | .ok n => return n = 0
  | .error fault =>
    StateT.lift (complain ("find: " ++ cited (words.headD "") ++ ": " ++
      (if fault = .missing then PathFault.missing.reason else fault.message)))
    return false

/-- Runs a command for the names that are kept for it. -/
def runKept (s : Setting) (c : Launched) : Searcher Unit := do
  match (← get).kept.lookup c.number with
  | none => return
  | some (directory, names) =>
    modify fun f => { f with kept := f.kept.filter (·.1 != c.number) }
    if !(← runWords s (if c.within then some directory else none) (c.words ++ names.reverse)) then fail

/-- Runs a command for a file, or keeps its name for later. -/
def runFor (s : Setting) (c : Launched) (e : Entry) : Searcher Bool := do
  let (directory, name) := if c.within then insideName e.name else ("", e.name)
  if c.together then
    match (← get).kept.lookup c.number with
    | some (d, _) => if d != directory then runKept s c
    | none        => pure ()
    let names := (((← get).kept.lookup c.number).map (·.2)).getD []
    modify fun f =>
      { f with kept := (c.number, directory, name :: names) :: f.kept.filter (·.1 != c.number) }
    return true
  else
    let words := withName name c.words
    if c.asks then
      flush
      let question := "< " ++ c.words.headD "" ++ " ... " ++ e.name ++ " > ? "
      if !(← StateT.lift (confirm question)) then return false
    runWords s (if c.within then some directory else none) words

/-- The name of a file, without directories. -/
def nameIn (e : Entry) : List Char := (lastComponent e.name).toList

/-- Deletes a file or an empty directory. -/
def deleteFound (e : Entry) : Searcher Bool := do
  let refuse (reason : String) : Searcher Bool := do
    StateT.lift (complain ("find: cannot delete " ++ cited e.name ++ ": " ++ reason))
    fail
    return false
  if e.name = "." then return true
  if e.kind = .directory && (← StateT.lift (hasEntries e.path)) then
    return ← refuse "Directory not empty"
  StateT.lift (deletePath e.path)
  return true

/-- Whether a condition holds of a file, with all that it does. -/
def holds (s : Setting) (x : Visited) : Condition → Searcher Bool
  | .always => return true
  | .never  => return false
  | .name anyCase p =>
    let name := nameIn x.entry
    return Pattern.isMatch p (if anyCase then name.map Char.toLower else name)
  | .path anyCase p =>
    let name := x.entry.name.toList
    return Pattern.isMatch p (if anyCase then name.map Char.toLower else name)
  | .target anyCase p =>
    let name := x.entry.target.toList
    return x.entry.kind = .link && Pattern.isMatch p (if anyCase then name.map Char.toLower else name)
  | .fits anyCase r => return (r.find anyCase x.entry.name.toList).isSome
  | .kinds turned letters => do
    if !turned then return letters.contains (kindLetter x.entry.kind)
    let v ← StateT.lift volume
    let own ← StateT.lift (look false x.entry.name)
    let letter :=
      if s.plan.follows then kindLetter ((own.toOption.map (·.1)).getD x.entry.kind)
      else turnedLetter v x.entry
    return letters.contains (if letter = 'N' || letter = 'L' then 'l' else letter)
  | .empty => do
    match x.entry.kind with
    | .directory => return !(← StateT.lift (hasEntries x.entry.path))
    | .file      => return x.entry.size = 0
    | _          => return false
  | .size order n unit => return compare ((x.entry.size + unit - 1) / unit) n = order
  | .links order n     => return compare x.entry.links n = order
  | .number order n    => return compare x.entry.number n = order
  | .owner order n     => return compare 0 n = order
  | .permits how bits =>
    return match how with
      | .exactly => x.entry.mode = bits
      | .all     => x.entry.mode &&& bits = bits
      | .any     => bits = 0 || x.entry.mode &&& bits != 0
  | .time order moment span =>
    return match order with
      | .lt => x.entry.time < moment
      | .gt => moment < x.entry.time
      | .eq => moment < x.entry.time && x.entry.time ≤ moment + span
  | .same path number => return x.entry.path = path || x.entry.number = number
  | .mayRun => do
    if x.entry.kind != .link then return x.entry.kind = .directory || Act.mayRun x.entry.mode
    let v ← StateT.lift volume
    match v.resolve true [] (Volume.nameOf (v.absolute x.entry.path)) with
    | .ok path => return (kindAt? v path).isSome && Act.mayRun (modeAt v path)
    | .error _ => return false
  | .print out mark => do
    put out (x.entry.name ++ String.ofList [mark])
    return true
  | .format out pieces => do
    put out (fillPieces (← StateT.lift volume) s.zone x pieces)
    return true
  | .list out => do
    put out (listedLine s.now s.zone x.entry)
    return true
  | .prune => do
    modify ({ · with pruned := true })
    return true
  | .quit => do
    modify ({ · with quits := true })
    return true
  | .delete => deleteFound x.entry
  | .run c  => runFor s c x.entry
  | .not c  => return !(← holds s x c)
  | .and c d => do if ← holds s x c then holds s x d else return false
  | .or c d  => do if ← holds s x c then return true else holds s x d
  | .both c d => do
    let _ ← holds s x c
    holds s x d

/-- What is where a name leads, with links followed where that is wanted. -/
def entryAt (follows : Bool) (name : String) (path : Path) : Act (Option Entry) := do
  let v ← volume
  match kindAt? v path with
  | none => return none
  | some .link =>
    if follows then
      match v.resolve true [] (Volume.nameOf (v.absolute path)) with
      | .ok there =>
        match kindAt? v there with
        | some kind => return some (← entryOf name kind there)
        | none      => return some (← entryOf name .link path)
      | .error _ => return some (← entryOf name .link path)
    else return some (← entryOf name .link path)
  | some kind => return some (← entryOf name kind path)

/-- Goes through what lies at and below a file. -/
def visit (s : Setting) (c : Condition) : (fuel : Nat) → Visited → Searcher Unit
  | 0, _ => return
  | fuel + 1, x => do
    let p := s.plan
    let consider : Searcher Unit := do
      modify ({ · with pruned := false })
      if p.least ≤ x.depth && !(← get).quits then
        let matched ← holds s x c
        if matched && !p.acts && !(← get).quits then put none (x.entry.name ++ "\n")
    if !p.inside then consider
    let pruned : Bool := (← get).pruned && !p.inside
    if x.entry.kind = .directory && x.depth < p.greatest && !pruned && !(← get).quits then
      let names ← StateT.lift (namesIn x.entry.path)
      if !(← StateT.lift volume).isDirectory x.entry.path then
        StateT.lift (complain ("find: " ++ cited x.entry.name ++ ": " ++ PathFault.missing.reason))
        fail
      for name in names do
        if !(← get).quits then
          let v ← StateT.lift volume
          let path := v.normal (x.entry.path ++ [toWorld name])
          match ← StateT.lift (entryAt p.follows (below x.entry.name name) path) with
          | none   => pure ()
          | some e => visit s c fuel ⟨e, x.depth + 1, x.start⟩
    if p.inside then consider

/-- Searches from operands. -/
def search (s : Setting) (c : Condition) (operands : List String) : Searcher Unit := do
  for name in operands do
    if !(← get).quits then
      let reach : Except String Path ← StateT.lift (do
        match ← look false name with
        | .error reason  => return .error reason
        | .ok (_, path)  => return .ok path)
      match reach with
      | .error reason =>
        StateT.lift (complain ("find: " ++ cited name ++ ": " ++ reason))
        fail
      | .ok path =>
        match ← StateT.lift (entryAt (s.plan.follows || s.plan.turns) name path) with
        | none   => pure ()
        | some e => visit s c (greatestTreeDepth + 1) ⟨e, 0, name⟩
  for command in c.together do runKept s command
  flush

/-- The options that come first, and the words behind them. -/
def firstOptions : List String → Plan → Except String (Plan × List String)
  | "-H" :: rest, p => firstOptions rest { p with turns := true }
  | "-L" :: rest, p => firstOptions rest { p with follows := true, turns := true }
  | "-P" :: rest, p => firstOptions rest { p with follows := false, turns := false }
  | "-D" :: _ :: rest, p => firstOptions rest p
  | "--" :: rest, p => .ok (p, rest)
  | w :: rest, p =>
    if w.startsWith "-O" then
      if (w.toList.drop 2).all Char.isDigit && w.length > 2 then firstOptions rest p
      else .error "Please specify a decimal number immediately after -O"
    else .ok (p, w :: rest)
  | [], p => .ok (p, [])

end BoardConsole.Shell.Search

namespace BoardConsole.Shell.Utility

open Act Search

/-- Searches directories. -/
def find : Builtin := fun r args => do
  let refuse (message : String) : Act Nat := do
    complain ("find: " ++ message)
    return 1
  match firstOptions args {} with
  | .error message => refuse message
  | .ok (p, args) =>
    let operands := args.takeWhile fun w => !isCondition true w
    let words := args.drop operands.length
    if words.contains "--help" || words.contains "-help" then
      Act.print "Usage: find [-H] [-L] [-P] [-Olevel] [-D debugopts] [path...] [expression]\n"
      return 0
    match ← ((signs (words.length + 1) "").run (words, p)).run with
    | .error message => refuse message
    | .ok (ss, (_, p)) =>
      match conditionOf ss with
      | .error message => refuse message
      | .ok c =>
        if p.deletes && p.prunes && !p.asked then
          return ← refuse ("The -delete action automatically turns on -depth, but -prune does " ++
            "nothing when -depth is in effect.  If you want to carry on anyway, just explicitly use " ++
            "the -depth option.")
        let s : Setting := ⟨r, p, ← presentNanos, ← currentZone⟩
        match p.names with
        | none =>
          let start := if operands.isEmpty then ["."] else operands
          let (_, found) ← (search s c start).run {}
          return statusOf found.failed
        | some file =>
          if !operands.isEmpty then
            complain ("find: extra operand " ++ cited (operands.headD ""))
            complain "find: file operands cannot be combined with -files0-from"
            return 1
          match ← readInput file with
          | .error reason => refuse ("cannot open " ++ cited file ++ " for reading: " ++ reason)
          | .ok text =>
            let start := (text.splitOn "\x00").filter (· != "")
            let (_, found) ← (search s c start).run {}
            return statusOf found.failed

end BoardConsole.Shell.Utility
