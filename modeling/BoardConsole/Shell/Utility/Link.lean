import BoardConsole.Shell.Utility.Paths

/-!
# Shell — Links

`ln` makes second names of files, and links that hold a name.
-/

namespace BoardConsole.Shell.Utility

open Act

def lnUsage : Usage :=
  { program := "ln", letters := "bdfFinrst:vLPTS:β::", misuse := 1
    names := backupNames ++ [("directory", 'd'), ("no-dereference", 'n'), ("no-target-directory", 'T'),
      ("force", 'f'), ("interactive", 'i'), ("target-directory", 't'), ("logical", 'L'),
      ("physical", 'P'), ("relative", 'r'), ("symbolic", 's'), ("verbose", 'v')] }

/-- The components that lead from a directory to a path, given the components of both from the root. -/
def componentsFrom : (directory path : List String) → List String
  | d :: ds, c :: cs => if d = c then componentsFrom ds cs else (d :: ds).map (fun _ => "..") ++ c :: cs
  | ds, cs           => ds.map (fun _ => "..") ++ cs

/-- The name of a path as seen from a directory. -/
def nameFrom (v : Volume) (directory path : Path) : String :=
  let parts (p : Path) : List String := (v.absolute p).filter (· != "/")
  match componentsFrom (parts directory) (parts path) with
  | [] => "."
  | cs => ofWorld ("/".intercalate cs)

/-- The path of a name of which the last components need not be there. -/
def resolveMissing (name : String) : (fuel : Nat) → Act Path
  | 0 => return []
  | fuel + 1 => do
    match ← resolve true name with
    | .ok path => return path
    | .error _ =>
      let path ← resolveMissing (directoryOf name) fuel
      return (← volume).normal (path ++ [toWorld (lastComponent name)])

/-- Links a name to a source. -/
def linkTo (a : Arguments) (backup : Option Backup) (source name : String) : Act Bool := do
  let refuse (message : String) : Act Bool := do
    lnUsage.complain message
    return false
  let symbolic := a.has 's'
  let failure (reason : String) : Act Bool :=
    let what :=
      if symbolic then
        "symbolic link " ++ quoted name ++ (if source = "" then " -> " ++ quoted source else "")
      else "hard link " ++ quoted name ++
        (if reason = "File exists" then "" else " => " ++ quoted source)
    refuse ("failed to create " ++ what ++ ": " ++ reason)
  let found ← look (a.has 'L') source
  match symbolic, found with
  | false, .error reason => refuse ("failed to access " ++ quoted source ++ ": " ++ reason)
  | false, .ok (.directory, _) => refuse (source ++ ": hard link not allowed for directory")
  | symbolic, found =>
    match ← resolve false name with
    | .error fault => failure fault.reason
    | .ok path =>
      let there := kindAt? (← volume) path
      let removes := a.has 'f' || a.has 'i' || backup.isSome
      if removes && there = some .directory then
        return ← refuse (name ++ ": cannot overwrite directory")
      if there.isSome then
        let v ← volume
        let aim ← if symbolic then look true source else pure found
        let same := match aim with
          | .ok (_, old) => old = path || ((v.namesOf path).contains old && linksTo v old = 1)
          | .error _     => false
        if removes && same && (backup.isNone || !symbolic) then
          return ← refuse (quoted source ++ " and " ++ quoted name ++ " are the same file")
        if a.has 'i' then
          if !(← confirm ("ln: replace " ++ quoted name ++ "? ")) then return true
      let text ←
        if a.has 'r' then
          let target ← resolveMissing source (source.length + 2)
          let directory ← resolveMissing (directoryOf name) (name.length + 2)
          pure (nameFrom (← volume) directory target)
        else pure source
      if symbolic && text = "" then return ← failure PathFault.missing.reason
      let kept ← match there, backup with
        | some _, some b => do pure (some (← b.make name path))
        | _, _           => pure none
      if (kindAt? (← volume) path).isSome && !removes then return ← failure "File exists"
      match symbolic, found with
      | false, .ok (_, old) =>
        if Volume.endsInDirectory name then return ← failure PathFault.missing.reason
        if (kindAt? (← volume) path).isSome then deletePath path
        setVolume ((← volume).share old path)
      | _, _ =>
        if Volume.endsInDirectory name then return ← failure PathFault.missing.reason
        if (kindAt? (← volume) path).isSome then deletePath path
        setVolume ((← volume).addLink path (toWorld text))
      if a.has 'v' then
        let before := match kept with | some b => quoted b ++ " ~ " | none => ""
        emit (before ++ quoted name ++ (if symbolic then " -> " else " => ") ++ quoted text ++ "\n")
      return true

/-- Links files. -/
def ln : Builtin := fun _ args => lnUsage.run args fun a => do
  match ← backupOf? a with
  | none =>
    refuseBackup lnUsage a
  | some backup =>
    if a.has 'r' && !a.has 's' then
      lnUsage.complain "cannot do --relative without --symbolic"
      return 1
    let linkAll (sources : List String) (d : Destination) : Act Nat :=
      forAll sources fun source => linkTo a backup source (d.nameFor source)
    match a.last? 't', a.has 'T', a.rest with
    | none, false, [source] => linkAll [source] (.into ".")
    | none, false, [source, name] =>
      match ← look (!a.has 'n' || Volume.endsInDirectory name) name with
      | .ok (.directory, _) => linkAll [source] (.into name)
      | _                   => linkAll [source] (.named name)
    | _, _, _ =>
      match ← destination lnUsage a with
      | .error status    => return status
      | .ok (sources, d) => linkAll sources d

end BoardConsole.Shell.Utility
