import BoardConsole.Shell.Utility.Edit.Run

/-!
# Shell — Editing lines

The utility `sed`: it runs a script on the lines of its inputs, together or one by one.
-/

namespace BoardConsole.Shell.Utility

open Act

def sedUsage : Usage :=
  { program := "sed", letters := "bEne:f:i::l:rsuzπφβδ", misuse := 1
    names := [("quiet", 'n'), ("silent", 'n'), ("expression", 'e'), ("file", 'f'), ("in-place", 'i'),
      ("line-length", 'l'), ("regexp-extended", 'E'), ("separate", 's'), ("unbuffered", 'u'),
      ("null-data", 'z'), ("zero-terminated", 'z'), ("binary", 'b'), ("posix", 'π'),
      ("follow-symlinks", 'φ'), ("sandbox", 'β'), ("debug", 'δ')] }

/-- Says how `sed` is used. -/
def sedHelp : Act Nat := do
  complain "Usage: sed [OPTION]... \x7bscript-only-if-no-other-script\x7d [input-file]..."
  return 1

/-- The files that a script writes to. -/
def targetsOf (commands : List Edit.Command) : List String :=
  commands.filterMap fun c =>
    match c.action with
    | .file 'w' name | .file 'W' name => some name
    | .substitute s                   => s.file
    | _                               => none

/-- Whether a script has to do with files or commands. -/
def actsOutside (commands : List Edit.Command) : Bool :=
  commands.any fun c =>
    match c.action with
    | .file _ _ | .run _ => true
    | .substitute s      => s.runs || s.file.isSome
    | _                  => false

/-- The texts of a script, from options in turn. -/
def scriptParts (a : Arguments) : Act (Except Nat (List Edit.Part)) := do
  let mut parts : List Edit.Part := []
  for (letter, s) in a.options do
    if letter = 'e' then parts := ⟨s, none⟩ :: parts
    else if letter = 'f' then
      match ← readInput s with
      | .ok text => parts := ⟨text, some s⟩ :: parts
      | .error reason =>
        sedUsage.complain
          (if reason = PathFault.isADirectory.reason then "read error on " ++ s ++ ": " ++ reason
           else "couldn't open file " ++ s ++ ": " ++ reason)
        return .error 1
  return .ok parts.reverse

/-- Edits lines. -/
def sed : Builtin := fun r args => do
  match sedUsage.read false args with
  | .error fault =>
    sedUsage.complain fault
    sedHelp
  | .ok a =>
    sedUsage.use (.ok a) fun a => do
      match ← scriptParts a with
      | .error status => return status
      | .ok parts =>
        let given := a.has 'e' || a.has 'f'
        if !given && a.rest.isEmpty then return ← sedHelp
        let parts := if given then parts else [⟨a.rest.headD "", none⟩]
        let names := if given then a.rest else a.rest.drop 1
        match Edit.ofParts (a.has 'E' || a.has 'r') parts with
        | .error fault =>
          sedUsage.complain fault
          return if fault.startsWith "can't" then 4 else 1
        | .ok commands =>
          if a.has 'β' && actsOutside commands then
            sedUsage.complain "-e expression #1, char 0: e/r/w commands disabled in sandbox mode"
            return 1
          if a.has 'i' && names.isEmpty then
            sedUsage.complain "no input files"
            return 4
          for name in (targetsOf commands).eraseDups do
            if name != "/dev/stdout" && name != "/dev/stderr" then
              if let .error reason ← writeFile name "" false then
                sedUsage.complain ("couldn't open file " ++ name ++ ": " ++ reason)
                return 4
          let start := (parts.head?.map (·.text)).getD ""
          let settings : Edit.Settings :=
            { commands := commands.toArray
              quiet    := a.has 'n' || start = "#n" || start.startsWith "#n\n"
              separate := a.has 's' || a.has 'i'
              inPlace  := a.last? 'i'
              ending   := if a.has 'z' then '\x00' else '\n'
              width    := ((a.last? 'l').bind String.toNat?).getD 70 }
          Edit.run r settings (if names.isEmpty then ["-"] else names)

end BoardConsole.Shell.Utility
