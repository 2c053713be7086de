import BoardConsole.Shell.Utility.Paths

/-!
# Shell — Utilities that answer questions

Parts of names, the surroundings of a process, and what the system is.
-/

namespace BoardConsole.Shell.Utility

open Act

/-! ### Names -/

def basenameUsage : Usage :=
  { program := "basename", letters := "as:z", misuse := 1
    names := [("multiple", 'a'), ("suffix", 's'), ("zero", 'z')] }

/-- A name without a suffix; one that is nothing but the suffix stays. -/
def withoutSuffix (suffix name : String) : String :=
  if suffix != "" && name != suffix && name.endsWith suffix then
    String.ofList (name.toList.take (name.length - suffix.length))
  else name

/-- Prints the last components of names. -/
def basename : Builtin := fun _ args => do
  match basenameUsage.read true args with
  | .error fault => basenameUsage.refuse fault
  | .ok a =>
    let ending := if a.has 'z' then "\x00" else "\n"
    let show_ (suffix : String) (names : List String) : Act Nat :=
      printChecked "basename"
        (String.join (names.map fun name => withoutSuffix suffix (lastComponent name) ++ ending))
    match a.has 'a' || a.has 's', a.rest with
    | _, []                   => basenameUsage.refuse "missing operand"
    | true, names             => show_ ((a.last? 's').getD "") names
    | false, [name]           => show_ "" [name]
    | false, [name, suffix]   => show_ suffix [name]
    | false, _ :: _ :: extra  => basenameUsage.refuse ("extra operand " ++ cited (extra.headD ""))

def dirnameUsage : Usage :=
  { program := "dirname", letters := "z", names := [("zero", 'z')], misuse := 1 }

/-- Prints what stands in front of the last components of names. -/
def dirname : Builtin := fun _ args => dirnameUsage.run args fun a => do
  if a.rest.isEmpty then return ← dirnameUsage.refuse "missing operand"
  printChecked "dirname"
    (String.join (a.rest.map fun name => directoryOf name ++ (if a.has 'z' then "\x00" else "\n")))

/-- Prints where programs are found. -/
def which : Builtin := fun _ args => do
  let mut failed := args.isEmpty
  for name in args.filter (· != "-a") do
    let found ←
      if name.contains '/' then
        match ← kind? true name with
        | some (.file, path) =>
          let v ← volume
          pure (if mayRun (modeAt v path) then some name else none)
        | _ => pure none
      else Builtin.findInPath name (← Builtin.searchPath)
    match found with
    | some path => printLine path
    | none      => failed := true
  return statusOf failed

/-! ### Surroundings -/

/-- The variables that are passed on, in the order in which they came. -/
def environment : Act (List (String × String)) := do
  return ((← process).store.reverse).filterMap fun (name, v) =>
    if v.exported then v.value.map (name, ·) else none

/-- Prints variables that are passed on. -/
def printenv : Builtin := fun _ args => do
  let known ← environment
  match args with
  | [] => printChecked "printenv" (unlines (known.map fun (name, value) => name ++ "=" ++ value))
  | names =>
    let values := names.map fun name => known.lookup name
    finish "printenv" (unlines (values.filterMap id)) (values.any (·.isNone))

/-- Prints a line that does not depend on anything. -/
def fixedLine (program line : String) : Builtin := fun _ _ => printChecked program (line ++ "\n")

/-- Prints a line that does not depend on anything, where no operands are given. -/
def fixedAnswer (program line : String) : Builtin := fun _ args =>
  let u : Usage := { program, letters := "", names := [], misuse := 1 }
  u.run args fun a =>
    match a.rest with
    | []         => printChecked program (line ++ "\n")
    | extra :: _ => u.refuse ("extra operand " ++ cited extra)

def ttyUsage : Usage :=
  { program := "tty", letters := "s", names := [("silent", 's'), ("quiet", 's')], misuse := 2 }

/-- Says that the standard input is no terminal. -/
def tty : Builtin := fun _ args => ttyUsage.run args fun a => do
  match a.rest with
  | extra :: _ => ttyUsage.refuse ("extra operand " ++ cited extra)
  | [] =>
    if !a.has 's' then
      let n ← printChecked "tty" "not a tty\n"
      if n != 0 then return 3
    return 1

def lognameUsage : Usage := { program := "logname", letters := "", names := [], misuse := 1 }

/-- Says that nobody has logged in. -/
def logname : Builtin := fun _ args => lognameUsage.run args fun a => do
  match a.rest with
  | extra :: _ => lognameUsage.refuse ("extra operand " ++ cited extra)
  | [] =>
    lognameUsage.complain "no login name"
    return 1

def idUsage : Usage :=
  { program := "id", letters := "ugGnr", misuse := 1
    names := [("user", 'u'), ("group", 'g'), ("groups", 'G'), ("name", 'n'), ("real", 'r')] }

/-- Prints who runs the shell. -/
def id_ : Builtin := fun _ args => idUsage.run args fun a =>
  let short := a.has 'u' || a.has 'g' || a.has 'G'
  printChecked "id"
    (if short then (if a.has 'n' then "root\n" else "0\n") else "uid=0(root) gid=0(root) groups=0(root)\n")

def unameUsage : Usage := { program := "uname", letters := "asnrvmpio", names := [], misuse := 1 }

/-- Prints what the system is. -/
def uname : Builtin := fun _ args => unameUsage.run args fun a =>
  let parts := [('s', "Linux"), ('n', "board"), ('r', "6.0.0"), ('v', "#1"), ('m', "x86_64"),
    ('o', "GNU/Linux")]
  let shown := if a.options.isEmpty then ["Linux"]
    else (parts.filter fun p => a.has p.1 || a.has 'a').map (·.2)
  printChecked "uname" (" ".intercalate shown ++ "\n")

/-! ### Printing -/

/-- Prints arguments, with backslashes that stand for characters where that is asked for. -/
def echo : Builtin := fun _ args =>
  let isOption (a : String) : Bool :=
    a.startsWith "-" && a != "-" && (a.toList.drop 1).all ['n', 'e', 'E'].contains
  let options := (args.takeWhile isOption).flatMap fun a => a.toList.drop 1
  let text := " ".intercalate (args.dropWhile isOption)
  let escapes := (options.filter (· != 'n')).getLast? = some 'e'
  let (text, stops) := if escapes then Format.unescaped text else (text, false)
  printChecked "echo" (if options.contains 'n' || stops then text else text ++ "\n")

/-- Prints a line again and again. -/
def yes : Builtin := fun _ args => do
  let line := (if args.isEmpty then "y" else " ".intercalate args) ++ "\n"
  let count := (← world).reach / line.length + 1
  match ← write 1 (String.join (List.replicate count line)) with
  | none => return 0
  | some fault =>
    complain ("yes: standard output: " ++ fault.reason)
    return 1

end BoardConsole.Shell.Utility
