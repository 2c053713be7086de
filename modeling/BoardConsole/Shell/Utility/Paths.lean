import BoardConsole.Shell.Mode
import BoardConsole.Shell.Utility.Text

/-!
# Shell — Names of files

What utilities for files have in common: the parts of names, what is where a name leads, questions to
the user, backups of what is about to be overwritten, and where operands go.
-/

namespace BoardConsole.Shell.Utility

open Act

/-! ### Names -/

/-- A name without slashes at its end. -/
def trimSlashes (name : String) : String :=
  let cs := (name.toList.reverse.dropWhile (· = '/')).reverse
  if cs.isEmpty && name != "" then "/" else String.ofList cs

/-- The last component of a name. -/
def lastComponent (name : String) : String :=
  let cs := (trimSlashes name).toList
  if cs = ['/'] then "/" else String.ofList (cs.reverse.takeWhile (· != '/')).reverse

/-- What stands in front of the last component of a name. -/
def directoryOf (name : String) : String :=
  let cs := (trimSlashes name).toList
  let last := (cs.reverse.takeWhile (· != '/')).length
  if last = cs.length then "."
  else
    let rest := trimSlashes (String.ofList (cs.take (cs.length - last)))
    if rest = "" then "/" else rest

/-- All beginnings of a name that end in a component, the shortest first. -/
def beginnings (name : String) : List String :=
  let start := if name.startsWith "/" then "/" else ""
  let cs := Volume.components name
  (List.range cs.length).map fun n => start ++ "/".intercalate (cs.take (n + 1))

/-! ### What is there -/

/-- Whether something lies in a directory. -/
def hasEntries (path : Path) : Act Bool := return !(← namesIn path).isEmpty

/-- What is where a name leads, or why it leads nowhere. -/
def look (follows : Bool) (name : String) : Act (Except String (Kind × Path)) := do
  match ← resolve follows ((← fileNamed? name).getD name) with
  | .error fault => return .error fault.reason
  | .ok path =>
    match kindAt? (← volume) path, descriptorNamed? name with
    | some kind, _ => return .ok (kind, path)
    | none, none   => return .error PathFault.missing.reason
    | none, some n =>
      return match ← description? n with
        | some (_, ⟨.pipe _, _, _, _, _⟩) => .ok (.pipe, path)
        | some _                          => .ok (.device, path)
        | none                            => .error PathFault.missing.reason

/-- The path of something in a directory. -/
def pathIn (v : Volume) (directory : Path) (name : String) : Path :=
  v.normal (directory ++ [toWorld name])

/-- Runs something for each of some operands, and fails if it fails for one of them. -/
def forAll (operands : List String) (act : String → Act Bool) : Act Nat := do
  let mut failed := false
  for name in operands do
    if !(← act name) then failed := true
  return statusOf failed

/-- How deep directories are looked through. -/
def greatestTreeDepth : Nat := 1000

/-- What a kind is called. -/
def kindName (size : Nat) : Kind → String
  | .directory => "directory"
  | .file      => if size = 0 then "regular empty file" else "regular file"
  | .link      => "symbolic link"
  | .device    => "character special file"
  | .pipe      => "fifo"

/-- The kind of what is at a path, as it is called. -/
def kindNameAt (kind : Kind) (path : Path) : Act String := do
  return kindName ((contentsAt? (← volume) path).getD []).length kind

/-! ### Questions -/

/-- Asks the user, and reads the answer. -/
def confirm (question : String) : Act Bool := do
  let _ ← write 2 question
  match ← readLine? 0 with
  | .ok (answer, _) => return answer.startsWith "y" || answer.startsWith "Y"
  | .error _        => return false

/-! ### Words of options -/

/-- What a word means among some: one that it is, or the only one that it begins. -/
def wordMeant? {α : Type} (known : List (String × α)) (word : String) : Option α :=
  match known.lookup word, known.filter (·.1.startsWith word) with
  | some found, _      => some found
  | none, [(_, found)] => some found
  | none, _            => none

/-- Refuses a word of an option that is not among those that are known, of which those that mean the
same stand together. -/
def refuseWordAmong (u : Usage) (option word : String) (known : List (List String)) : Act Nat := do
  let kind := if (known.filter (·.any (·.startsWith word))).length > 1 then "ambiguous" else "invalid"
  u.complain (kind ++ " argument " ++ cited word ++ " for " ++ cited option)
  complain "Valid arguments are:"
  for words in known do complain ("  - " ++ ", ".intercalate (words.map cited))
  complain u.hint
  return 1

/-- Refuses a word of an option that is not among those that are known. -/
def refuseWordOf (u : Usage) (option word : String) (known : List String) : Act Nat :=
  refuseWordAmong u option word (known.map fun w => [w])

/-! ### Backups -/

/-- How the name of a backup is made. -/
inductive BackupForm where
  | simple
  /-- A number, if there are such backups already. -/
  | existing
  | numbered
deriving DecidableEq

/-- Backups of what is overwritten, and what their names end in. -/
structure Backup where
  form   : BackupForm
  suffix : String

/-- The words for forms of backups. -/
def backupWords : List (String × Option BackupForm) :=
  [("none", none), ("off", none), ("simple", some .simple), ("never", some .simple),
   ("existing", some .existing), ("nil", some .existing), ("numbered", some .numbered),
   ("t", some .numbered)]

/-- The long names of the options for backups. -/
def backupNames : List (String × Char) := [("backup", 'β'), ("suffix", 'S')]

/-- The backups that options and variables ask for; nothing where a word is not known. -/
def backupOf? (a : Arguments) : Act (Option (Option Backup)) := do
  if !(a.has 'b' || a.has 'β' || a.has 'S') then return some none
  let suffix := (a.last? 'S').getD ((← value? "SIMPLE_BACKUP_SUFFIX").getD "~")
  let suffix := if suffix = "" || suffix.contains '/' then "~" else suffix
  let usual := (← value? "VERSION_CONTROL").getD "existing"
  let word := match a.last? 'β' with
    | some "" | none => usual
    | some w         => w
  match wordMeant? backupWords word with
  | none             => return none
  | some none        => return some none
  | some (some form) => return some (some ⟨form, suffix⟩)

/-- Refuses a word that stands for no form of backups. -/
def refuseBackup (u : Usage) (a : Arguments) : Act Nat :=
  refuseWordAmong u "backup type" ((a.last? 'β').getD "")
    [["none", "off"], ["simple", "never"], ["existing", "nil"], ["numbered", "t"]]

/-- The numbers of the backups of a name in a directory. -/
def backupNumbers (name : String) (names : List String) : List Nat :=
  names.filterMap fun n =>
    let cs := n.toList
    let start := (name ++ ".~").toList
    if start.isPrefixOf cs && n.endsWith "~" && start.length < cs.length then
      (String.ofList ((cs.drop start.length).dropLast)).toNat?
    else none

/-- The name of a backup of a name. -/
def Backup.nameFor (b : Backup) (name : String) : Act String := do
  let numbers ← match ← look true (directoryOf name) with
    | .ok (.directory, path) => pure (backupNumbers (lastComponent name) (← namesIn path))
    | _                      => pure []
  let numbered := trimSlashes name ++ ".~" ++ toString (numbers.foldl max 0 + 1) ++ "~"
  return match b.form with
    | .simple   => trimSlashes name ++ b.suffix
    | .numbered => numbered
    | .existing => if numbers.isEmpty then trimSlashes name ++ b.suffix else numbered

/-- Moves what is at a path out of the way, and answers the name of the backup. -/
def Backup.make (b : Backup) (name : String) (path : Path) : Act String := do
  let other ← b.nameFor name
  match ← resolve false other with
  | .ok target => movePath path target
  | .error _   => pure ()
  return other

/-! ### Where operands go -/

/-- Operands that go into a directory, or one that goes to a name. -/
inductive Destination where
  | into (directory : String)
  | named (name : String)

/-- The sources and where they go: what `-t` names, or else the last operand. -/
def destination (u : Usage) (a : Arguments) : Act (Except Nat (List String × Destination)) := do
  if a.has 't' && a.has 'T' then
    u.complain "cannot combine --target-directory (-t) and --no-target-directory (-T)"
    return .error u.misuse
  match a.last? 't', a.rest with
  | _, [] => return .error (← u.refuse "missing file operand")
  | some directory, sources =>
    match ← look true directory with
    | .ok (.directory, _) => return .ok (sources, .into directory)
    | .ok _ =>
      u.complain (if u.program = "ln" then "target " ++ quoted directory ++ " is not a directory"
        else "target directory " ++ quoted directory ++ ": Not a directory")
      return .error 1
    | .error reason =>
      u.complain ("target directory " ++ quoted directory ++ ": " ++ reason)
      return .error 1
  | none, [name] =>
    return .error (← u.refuse ("missing destination file operand after " ++ quoted name))
  | none, operands =>
    let sources := operands.dropLast
    let last := operands.getLastD ""
    if a.has 'T' then
      match sources with
      | [_] => return .ok (sources, .named last)
      | _   => return .error (← u.refuse ("extra operand " ++ cited (operands.getD 2 "")))
    match ← look true last with
    | .ok (.directory, _) => return .ok (sources, .into last)
    | found =>
      match sources with
      | [_] => return .ok (sources, .named last)
      | _ =>
        let reason := match found with
          | .error reason => reason
          | .ok _         => PathFault.notADirectory.reason
        u.complain ("target " ++ quoted last ++ ": " ++ reason)
        return .error 1

/-- The name that a source gets. -/
def Destination.nameFor (d : Destination) (source : String) : String :=
  match d with
  | .into directory => below directory (lastComponent source)
  | .named name     => name

end BoardConsole.Shell.Utility
