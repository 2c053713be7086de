import BoardConsole.Shell.Utility.Paths

/-!
# Shell — Utilities for permissions

`chmod` changes what may be done with files; `chown` and `chgrp` change whose they are, and there is
only one user.
-/

namespace BoardConsole.Shell.Utility

open Act

/-! ### Permissions -/

def chmodUsage : Usage :=
  { program := "chmod", letters := "Rvcfρ:πν", misuse := 1
    names := [("changes", 'c'), ("recursive", 'R'), ("verbose", 'v'), ("silent", 'f'),
      ("quiet", 'f'), ("reference", 'ρ'), ("preserve-root", 'π'), ("no-preserve-root", 'ν')] }

/-- Whether an argument is a mode although it begins like an option. -/
def isTakenAway (s : String) : Bool :=
  match s.toList with
  | '-' :: c :: cs =>
    "rwxXstugo,+=01234567".contains c && cs.all fun c => "rwxXstugo,+-=a01234567".contains c
  | _ => false

/-- Permissions as four digits, and as letters. -/
def permissionsShown (mode : Nat) : String :=
  let digits := Nat.toDigits 8 mode
  String.ofList (List.replicate (4 - digits.length) '0' ++ digits) ++ " (" ++ Mode.shown mode ++ ")"

/-- Says what became of permissions. -/
def tellMode (a : Arguments) (name : String) (old new : Nat) : Act Unit := do
  if a.has 'v' || (a.has 'c' && old != new) then
    emit ("mode of " ++ quoted name ++
      (if old = new then " retained as " ++ permissionsShown old
       else " changed from " ++ permissionsShown old ++ " to " ++ permissionsShown new) ++ "\n")

/-- Changes the permissions of what a name leads to, and of all below it where that is asked for. -/
def permitBelow (a : Arguments) (change : Bool → Nat → Option Nat) :
    (fuel : Nat) → String → Path → Act Bool
  | 0, _, _ => return true
  | fuel + 1, name, path => do
    let v ← volume
    let isDirectory := v.isDirectory path
    let old := modeAt v path
    match change isDirectory old with
    | none => return true
    | some new =>
      setVolume (v.setMode path new)
      tellMode a name old new
      let mut good := true
      if a.has 'R' && isDirectory then
        for n in ← namesIn path do
          let inside := pathIn (← volume) path n
          if (kindAt? (← volume) inside).any (· != .link) then
            if !(← permitBelow a change fuel (below name n) inside) then good := false
      return good

/-- Changes permissions. -/
def chmod : Builtin := fun _ args => do
  let before := args.takeWhile (· != "--")
  let taken := before.filter isTakenAway
  let rest := before.filter (fun s => !isTakenAway s) ++ args.drop before.length
  chmodUsage.run rest fun a => do
    let reference := a.last? 'ρ'
    let (mode?, names) := match reference, taken, a.rest with
      | some _, [], names     => (none, names)
      | none, [], []          => (none, [])
      | none, [], mode :: names => (some mode, names)
      | _, taken, names       => (some (",".intercalate taken), names)
    if mode?.isSome && reference.isSome then
      return ← chmodUsage.refuse "cannot combine mode and --reference options"
    if names.isEmpty then
      return ← match mode?, taken with
        | some mode, [] => chmodUsage.refuse ("missing operand after " ++ cited mode)
        | _, _          => chmodUsage.refuse "missing operand"
    let mask := (← process).mask
    let changing : Except String (Bool → Nat → Option Nat) ← match mode?, reference with
      | some mode, _ =>
        if (Mode.ofText? false mask 0 mode).isNone then
          pure (.error ("invalid mode: " ++ cited mode))
        else pure (.ok fun isDirectory old => Mode.ofText? isDirectory mask old mode)
      | none, some other => do
        match ← look true other with
        | .error reason => pure (.error ("failed to get attributes of " ++ quoted other ++ ": " ++ reason))
        | .ok (_, path) =>
          let mode := modeAt (← volume) path
          pure (.ok fun (_ : Bool) (_ : Nat) => some mode)
      | none, none => pure (.ok fun (_ : Bool) (_ : Nat) => none)
    match changing with
    | .error fault =>
      if fault.startsWith "invalid mode" then chmodUsage.refuse fault
      else
        chmodUsage.complain fault
        return 1
    | .ok change =>
      forAll names fun name => do
        match ← look true name with
        | .error reason =>
          if !a.has 'f' then
            let dangling := (← look false name).toOption.isSome
            chmodUsage.complain
              (if dangling then "cannot operate on dangling symlink " ++ quoted name
               else "cannot access " ++ quoted name ++ ": " ++ reason)
          if a.has 'v' then
            emit (quoted name ++ " could not be accessed\n")
          return false
        | .ok (_, path) =>
          let v ← volume
          let old := modeAt v path
          let isDirectory := v.isDirectory path
          let good ← permitBelow a change greatestTreeDepth name path
          -- A mode like an option that the mask has weakened is complained about.
          match taken with
          | [] => return good
          | _  =>
            let full := (Mode.ofText? isDirectory 0 old (",".intercalate taken)).getD old
            let new := modeAt (← volume) path
            if Mode.without new full != 0 then
              chmodUsage.complain (name ++ ": new permissions are " ++ Mode.shown new ++ ", not " ++
                Mode.shown full)
              return false
            else return good

/-! ### Owners -/

/-- Whether a text names the only user, or the only group. -/
def isKnownOwner (s : String) : Bool := s = "" || s = "root" || (s.toNat?).isSome

/-- Gives files to somebody; there is only one user. -/
def chown (program : String) : Builtin := fun _ args => do
  let u : Usage :=
    { program, letters := "RvcfhHLPρ:φ:δπν", misuse := 1
      names := [("recursive", 'R'), ("changes", 'c'), ("verbose", 'v'), ("silent", 'f'),
        ("quiet", 'f'), ("no-dereference", 'h'), ("dereference", 'δ'), ("reference", 'ρ'),
        ("from", 'φ'), ("preserve-root", 'π'), ("no-preserve-root", 'ν')] }
  u.run args fun a => do
    let isGroup : Bool := program = "chgrp"
    let (who, names) := match a.last? 'ρ', a.rest with
      | some _, names      => ("", names)
      | none, who :: names => (who, names)
      | none, []           => ("", [])
    if a.rest.isEmpty then return ← u.refuse "missing operand"
    if names.isEmpty then return ← u.refuse ("missing operand after " ++ cited who)
    if let some other := a.last? 'ρ' then
      match ← look true other with
      | .error reason =>
        u.complain ("failed to get attributes of " ++ quoted other ++ ": " ++ reason)
        return 1
      | .ok _ => pure ()
    if isGroup then
      if !isKnownOwner who then
        u.complain ("invalid group: " ++ cited who)
        return 1
    else
      let owner := who.toList.takeWhile fun c => c != ':' && c != '.'
      if !isKnownOwner (String.ofList owner) then
        u.complain ("invalid user: " ++ cited who)
        return 1
      if !isKnownOwner (String.ofList (who.toList.drop (owner.length + 1))) then
        u.complain ("invalid group: " ++ cited who)
        return 1
    forAll names fun name => do
      match ← look (!a.has 'h') name with
      | .error reason =>
        if !a.has 'f' then
          let dangling := (← look false name).toOption.isSome
          u.complain ((if dangling then "cannot dereference " else "cannot access ") ++ quoted name ++
            ": " ++ reason)
        return false
      | .ok _ =>
        if a.has 'v' then
          if isGroup then emit ("group of " ++ quoted name ++ " retained as root\n")
          else emit ("ownership of " ++ quoted name ++ " retained as root\n")
        return true

end BoardConsole.Shell.Utility
