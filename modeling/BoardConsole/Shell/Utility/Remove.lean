import BoardConsole.Shell.Utility.Paths

/-!
# Shell — Removing files

`rm` removes files, and directories with all that lies in them; `rmdir` removes empty directories, and
`unlink` one file.
-/

namespace BoardConsole.Shell.Utility

open Act

/-! ### Removing what lies below -/

def rmUsage : Usage :=
  { program := "rm", letters := "rRfidvIι::ξπ::ν", misuse := 1
    names := [("recursive", 'r'), ("force", 'f'), ("verbose", 'v'), ("dir", 'd'), ("interactive", 'ι'),
      ("one-file-system", 'ξ'), ("preserve-root", 'π'), ("no-preserve-root", 'ν')] }

/-- When the user is asked. -/
inductive Asking where
  | never
  | once
  | always
deriving DecidableEq

/-- When the user is asked, by the last option that says so. -/
def Asking.ofOptions (a : Arguments) : Option Asking :=
  (a.options.foldl
    (fun asking (letter, word) =>
      match letter with
      | 'f' => some .never
      | 'i' => some .always
      | 'I' => some .once
      | 'ι' =>
        wordMeant? [("never", Asking.never), ("no", .never), ("none", .never), ("once", .once),
          ("always", .always), ("yes", .always)] (if word = "" then "always" else word)
      | _ => asking) (some Asking.never))

/-- Removes what is at a path, and all that lies below it. Answers whether all went well. -/
def removeTree (a : Arguments) (asks : Bool) : (fuel : Nat) → String → Kind → Path → Act Bool
  | 0, _, _, _ => return true
  | fuel + 1, name, kind, path => do
    if kind != .directory then
      let what ← kindNameAt kind path
      if asks then
        if !(← confirm ("rm: remove " ++ what ++ " " ++ quoted name ++ "? ")) then return true
      deletePath path
      if a.has 'v' then emit ("removed " ++ quoted name ++ "\n")
      return true
    else
      let names ← namesIn path
      if asks && !names.isEmpty then
        if !(← confirm ("rm: descend into directory " ++ quoted name ++ "? ")) then return true
      let v ← volume
      let mut good := true
      for n in names do
        let inside := pathIn v path n
        match kindAt? (← volume) inside with
        | some k => if !(← removeTree a asks fuel (below name n) k inside) then good := false
        | none   => pure ()
      if asks then
        if !(← confirm ("rm: remove directory " ++ quoted name ++ "? ")) then return good
      if ← hasEntries path then
        if !good || asks then return good
        rmUsage.complain ("cannot remove " ++ quoted name ++ ": Directory not empty")
        return false
      deletePath path
      if a.has 'v' then emit ("removed directory " ++ quoted name ++ "\n")
      return good

/-- Removes files as arguments say. -/
def removeFiles (a : Arguments) : Act Nat := do
  match Asking.ofOptions a with
  | none =>
    refuseWordAmong rmUsage "--interactive" ((a.last? 'ι').getD "")
      [["never", "no", "none"], ["once"], ["always", "yes"]]
  | some asking =>
    let recursive := a.has 'r' || a.has 'R'
    let force := (a.options.filter fun o => ['f', 'i', 'I'].contains o.1).getLast?.any (·.1 = 'f')
    if a.rest.isEmpty then
      if force then return 0 else return ← rmUsage.refuse "missing operand"
    if asking = .once && (recursive || 3 < a.rest.length) then
      let n := a.rest.length
      let question := "rm: remove " ++ toString n ++ (if n = 1 then " argument" else " arguments") ++
        (if recursive then " recursively? " else "? ")
      if !(← confirm question) then return 0
    forAll a.rest fun name => do
      let refuse (reason : String) : Act Bool := do
        rmUsage.complain ("cannot remove " ++ quoted name ++ ": " ++ reason)
        return false
      let last := lastComponent name
      match ← look false name with
      | .error reason =>
        let ignored := reason = PathFault.missing.reason || reason = PathFault.notADirectory.reason
        if force && ignored then return true else refuse reason
      | .ok (.directory, path) =>
        if !recursive && !a.has 'd' then refuse PathFault.isADirectory.reason
        else if last = "." || last = ".." then
          rmUsage.complain
            ("refusing to remove '.' or '..' directory: skipping " ++ quoted name)
          return false
        else if path = ["/"] && recursive && !a.has 'ν' then
          rmUsage.complain "it is dangerous to operate recursively on '/'"
          rmUsage.complain "use --no-preserve-root to override this failsafe"
          return false
        else if !recursive && (← hasEntries path) then refuse "Directory not empty"
        else removeTree a (asking = .always) greatestTreeDepth (trimSlashes name) .directory path
      | .ok (kind, path) =>
        removeTree a (asking = .always) greatestTreeDepth name kind path

/-- Removes files. An argument that is refused may be the name of one. -/
def rm : Builtin := fun _ args => do
  match rmUsage.read false args with
  | .ok a => rmUsage.use (.ok a) removeFiles
  | .error fault =>
    rmUsage.complain fault
    for name in args do
      if name.startsWith "-" && name != "-" then
        if (← look false name).toOption.isSome then
          complain ("Try 'rm ./" ++ Quoting.apply (.shell false false) name ++ "' to remove the file " ++
            quoted name ++ ".")
          break
    complain rmUsage.hint
    return 1


/-! ### Empty directories -/

def rmdirUsage : Usage :=
  { program := "rmdir", letters := "pvι", misuse := 1
    names := [("parents", 'p'), ("path", 'p'), ("verbose", 'v'), ("ignore-fail-on-non-empty", 'ι')] }

/-- Removes an empty directory, and those above it that become empty. -/
def removeDirectory (a : Arguments) (isAbove : Bool) : (fuel : Nat) → String → Act Bool
  | 0, _ => return true
  | fuel + 1, name => do
    let refuse (reason : String) : Act Bool := do
      rmdirUsage.complain ("failed to remove " ++ (if isAbove then "directory " else "") ++
        quoted name ++ ": " ++ reason)
      return false
    if a.has 'v' then emit ("rmdir: removing directory, " ++ quoted name ++ "\n")
    match ← look false name with
    | .error reason => refuse reason
    | .ok (.directory, path) =>
      let isLink := (← resolve false (trimSlashes name)).toOption.any fun p => p != path
      if lastComponent name = "." then refuse "Invalid argument"
      else if lastComponent name = ".." then refuse "Directory not empty"
      else if isLink then refuse "Not a directory"
      else if ← hasEntries path then
        if a.has 'ι' then return true else refuse "Directory not empty"
      else
        deletePath path
        let above := directoryOf name
        if a.has 'p' && above != "." && above != "/" then removeDirectory a true fuel above
        else return true
    | .ok _ => refuse PathFault.notADirectory.reason

/-- Removes empty directories. -/
def rmdir : Builtin := fun _ args => rmdirUsage.run args fun a => do
  if a.rest.isEmpty then return ← rmdirUsage.refuse "missing operand"
  forAll a.rest fun name => removeDirectory a false (name.length + 1) name

/-! ### One file -/

def unlinkUsage : Usage := { program := "unlink", letters := "", names := [], misuse := 1 }

/-- Removes one file. -/
def unlink : Builtin := fun _ args => unlinkUsage.run args fun a => do
  match a.rest with
  | [] => unlinkUsage.refuse "missing operand"
  | _ :: extra :: _ => unlinkUsage.refuse ("extra operand " ++ cited extra)
  | [name] =>
    match ← look false name with
    | .ok (.directory, _) =>
      unlinkUsage.complain ("cannot unlink " ++ quoted name ++ ": Is a directory")
      return 1
    | .ok (_, path) =>
      deletePath path
      return 0
    | .error reason =>
      unlinkUsage.complain ("cannot unlink " ++ quoted name ++ ": " ++ reason)
      return 1

end BoardConsole.Shell.Utility
