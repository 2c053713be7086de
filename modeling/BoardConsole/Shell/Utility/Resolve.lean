import BoardConsole.Shell.Utility.Link

/-!
# Shell — Where names lead

`readlink` and `realpath` print the whole names of files, and `pathchk` says whether names can be used.
-/

namespace BoardConsole.Shell.Utility

open Act

/-- How much of a name has to be there. -/
inductive Presence where
  | all
  | allButLast
  | none
deriving DecidableEq, Repr

/-- Walks from a directory. Links are followed where that is wanted; what is missing is passed over
where it need not be there. -/
def walkName (v : Volume) (presence : Presence) (follows : Bool) : (fuel : Nat) → (links : Nat) →
    (here : Path) → List String → Except PathFault Path
  | 0, _, here, _ | _, _, here, [] => .ok here
  | fuel + 1, links, here, c :: cs =>
    if c = ".." then walkName v presence follows fuel links (v.parent here) cs
    else
      let there := v.normal (here ++ [c])
      match if follows then v.linkTarget? there else none with
      | some target =>
        match links with
        | 0 => if presence = .none then walkName v presence follows fuel 0 there cs
          else .error .tooManyLinks
        | links + 1 =>
          let start := if target.startsWith "/" then ["/"] else here
          walkName v presence follows fuel links start (Volume.components target ++ cs)
      | none =>
        match kindAt? v there with
        | none =>
          if presence = .none || (presence = .allButLast && cs.isEmpty) then
            walkName v presence follows fuel links there cs
          else .error .missing
        | some kind =>
          if cs.isEmpty || kind = .directory || kind = .link || presence = .none then
            walkName v presence follows fuel links there cs
          else .error .notADirectory

/-- The path of a name. -/
def canonical (presence : Presence) (follows : Bool) (name : String) : Act (Except PathFault Path) := do
  let v ← volume
  let world := toWorld ((← fileNamed? name).getD name)
  if world = "" then return .error .missing
  let directory := (← process).directory
  let start := if world.startsWith "/" then ["/"] else directory
  let cs := Volume.components world
  match walkName v presence follows (64 * (cs.length + 64)) Volume.longestChain start cs with
  | .error fault => return .error fault
  | .ok path =>
    match kindAt? v path with
    | some kind =>
      let isOther : Bool := Volume.endsInDirectory world && presence != .none && kind != .directory &&
        kind != .link
      return if isOther then .error .notADirectory else .ok path
    | none => return .ok path

/-- The whole name of a path. -/
def fullName (path : Path) : Act String := return ofWorld (Volume.nameOf ((← volume).absolute path))

/-- The end of a line, or a null character. -/
def lineEndOf (a : Arguments) : String := if a.has 'z' then "\x00" else "\n"

def readlinkUsage : Usage :=
  { program := "readlink", letters := "fenmqsvz", misuse := 1
    names := [("canonicalize", 'f'), ("canonicalize-existing", 'e'), ("canonicalize-missing", 'm'),
      ("no-newline", 'n'), ("quiet", 'q'), ("silent", 's'), ("verbose", 'v'), ("zero", 'z')] }

/-- Prints what links lead to, or the whole names of files. -/
def readlink : Builtin := fun _ args => readlinkUsage.run args fun a => do
  if a.rest.isEmpty then return ← readlinkUsage.refuse "missing operand"
  if a.has 'n' && a.rest.length > 1 then
    readlinkUsage.complain "ignoring --no-newline with multiple arguments"
  let ending := if a.has 'n' && a.rest.length = 1 then "" else lineEndOf a
  let verbose := (a.options.filter fun o => o.1 = 'v' || o.1 = 'q' || o.1 = 's').getLast?.any (·.1 = 'v')
  let presence? := (a.options.reverse.findSome? fun o =>
    [('e', Presence.all), ('f', Presence.allButLast), ('m', Presence.none)].lookup o.1)
  forAll a.rest fun name => do
    let refuse (reason : String) : Act Bool := do
      if verbose then readlinkUsage.complain (shownName name ++ ": " ++ reason)
      return false
    match presence? with
    | some presence =>
      match ← canonical presence true name with
      | .error fault => refuse fault.reason
      | .ok path =>
        print ((← fullName path) ++ ending)
        return true
    | none =>
      match ← look false name with
      | .error reason => refuse reason
      | .ok (_, path) =>
        match (← volume).linkTarget? path with
        | none => refuse "Invalid argument"
        | some target =>
          print (ofWorld target ++ ending)
          return true

def realpathUsage : Usage :=
  { program := "realpath", letters := "emLPqszτ:β:", misuse := 1
    names := [("canonicalize-existing", 'e'), ("canonicalize-missing", 'm'), ("logical", 'L'),
      ("physical", 'P'), ("quiet", 'q'), ("relative-to", 'τ'), ("relative-base", 'β'), ("strip", 's'),
      ("no-symlinks", 's'), ("zero", 'z')] }

/-- The path of a name as options ask for it. -/
def realName (a : Arguments) (name : String) : Act (Except PathFault Path) := do
  let presence : Presence := match (a.options.filter fun o => o.1 = 'e' || o.1 = 'm').getLast? with
    | some ('e', _) => .all
    | some _        => .none
    | none          => .allButLast
  match ((a.options.filter fun o => "sLP".toList.contains o.1).getLast?).map (·.1) with
  | some 's' => canonical presence false name
  | some 'L' =>
    match ← canonical presence false name with
    | .error fault => return .error fault
    | .ok path     => canonical presence true (← fullName path)
  | _ => canonical presence true name

/-- Prints the whole names of files, or as they are seen from a directory. -/
def realpath : Builtin := fun _ args => realpathUsage.run args fun a => do
  if a.rest.isEmpty then return ← realpathUsage.refuse "missing operand"
  let refuse (name reason : String) : Act Bool := do
    if !a.has 'q' then realpathUsage.complain (shownName name ++ ": " ++ reason)
    return false
  let directory (letter : Char) : Act (Except (String × String) (Option Path)) := do
    match a.last? letter with
    | none => return .ok none
    | some name =>
      match ← realName a name with
      | .error fault => return .error (name, fault.reason)
      | .ok path =>
        if a.has 'e' && kindAt? (← volume) path != some .directory then
          return .error (name, PathFault.notADirectory.reason)
        return .ok (some path)
  match ← directory 'τ', ← directory 'β' with
  | .error (name, reason), _ | _, .error (name, reason) =>
    realpathUsage.complain (shownName name ++ ": " ++ reason)
    return 1
  | .ok start, .ok base =>
    let start := start.or base
    forAll a.rest fun name => do
      match ← realName a name with
      | .error fault => refuse name fault.reason
      | .ok path =>
        let v ← volume
        let isBelow (base path : Path) : Bool := (v.absolute base).isPrefixOf (v.absolute path)
        let shown ← match start with
          | none => fullName path
          | some start =>
            if base.all fun b => isBelow b path && isBelow b start then pure (nameFrom v start path)
            else fullName path
        print (shown ++ lineEndOf a)
        return true

/-! ### Names that can be used -/

def pathchkUsage : Usage :=
  { program := "pathchk", letters := "pPα", misuse := 1, names := [("portability", 'α')] }

/-- Why a name cannot be used everywhere. -/
def nameFault? (strict careful : Bool) (name : String) : Option String :=
  let parts := (name.splitOn "/").filter (· != "")
  let isPortable (c : Char) : Bool := c.isAlphanum || c = '.' || c = '_' || c = '-' || c = '/'
  let exceeded (limit : Nat) (s kind : String) : String :=
    "limit " ++ toString limit ++ " exceeded by length " ++ toString s.length ++ " of file name " ++
      kind ++ quoted s
  if careful && parts.any (·.startsWith "-") then
    some ("leading '-' in a component of file name " ++ quoted name)
  else if careful && name = "" then some "empty file name"
  else
    match if strict then name.toList.find? (!isPortable ·) else none with
    | some c =>
      some ("nonportable character " ++ Quoting.apply .single (String.ofList [c]) ++ " in file name " ++
        quoted name)
    | none =>
      let most := if strict then 255 else Volume.longestPath
      let longest := if strict then 14 else Volume.longestName
      if most < name.length then some (exceeded most name "")
      else (parts.find? (longest < ·.length)).map (exceeded longest · "component ")

/-- Says which names cannot be used. -/
def pathchk : Builtin := fun _ args => pathchkUsage.run args fun a => do
  if a.rest.isEmpty then return ← pathchkUsage.refuse "missing operand"
  let strict := a.has 'p' || a.has 'α'
  let careful := a.has 'P' || a.has 'α'
  forAll a.rest fun name => do
    match nameFault? strict careful name with
    | some fault =>
      pathchkUsage.complain fault
      return false
    | none =>
      let reason? : Option String := match ← look false name with
        | .error reason =>
          if !strict && (reason != PathFault.missing.reason || name = "") then some reason else none
        | .ok _ => none
      match reason? with
      | none => return true
      | some reason =>
        pathchkUsage.complain (shownName name ++ ": " ++ reason)
        return false

end BoardConsole.Shell.Utility
