import BoardConsole.Shell.Calendar
import BoardConsole.Shell.Quoting
import BoardConsole.Shell.Utility.Paths

/-!
# Shell — What is known of files

All that listings, searches and formats show of a file.
-/

namespace BoardConsole.Shell.Utility

open Act

/-- What is known of a file. -/
structure Entry where
  /-- The name under which it was found. -/
  name   : String
  kind   : Kind
  path   : Path
  /-- When it was changed, in nanoseconds from the beginning of 1970. -/
  time   : Int
  size   : Nat
  mode   : Nat
  links  : Nat
  number : Nat
  /-- What a link leads to. -/
  target : String

/-- The bytes that a directory counts for. -/
def directorySize : Nat := 4096

/-- What is known of something that is there. -/
def entryOf (name : String) (kind : Kind) (path : Path) : Act Entry := do
  let v ← volume
  let target := match kind with
    | .link => ofWorld ((v.linkTarget? path).getD "")
    | _     => ""
  let size := match kind with
    | .directory      => directorySize
    | .link           => target.length
    | .device | .pipe => 0
    | .file           => ((contentsAt? v path).getD []).length
  return ⟨name, kind, path, changedAt v path, size, modeAt v path, linksTo v path, numberAt v path,
    target⟩

/-- The blocks of 512 bytes that a file takes. -/
def Entry.blocks (e : Entry) : Nat :=
  match e.kind with
  | .directory | .file => (e.size + 4095) / 4096 * 8
  | _                  => 0

/-- The letter for a kind. -/
def kindLetter : Kind → Char
  | .directory => 'd'
  | .file      => '-'
  | .link      => 'l'
  | .device    => 'c'
  | .pipe      => 'p'

/-- The bits for a kind that stand before the permissions. -/
def kindBits : Kind → Nat
  | .directory => 0o040000
  | .file      => 0o100000
  | .link      => 0o120000
  | .device    => 0o020000
  | .pipe      => 0o010000

/-- The kind and the permissions in letters. -/
def Entry.permissions (e : Entry) : String := String.ofList [kindLetter e.kind] ++ Mode.shown e.mode

/-- The numbers of a device that tell which it is. -/
def deviceNumbers : Path → Nat × Nat
  | ["/", "dev", "null"] => (1, 3)
  | ["/", "dev", "zero"] => (1, 5)
  | ["/", "dev", "full"] => (1, 7)
  | _                    => (0, 0)

/-- A number as digits of a base. -/
def inBase (base n : Nat) : String := String.ofList (Nat.toDigits base n)

end BoardConsole.Shell.Utility
