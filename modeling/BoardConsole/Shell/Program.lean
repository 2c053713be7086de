import BoardConsole.Shell.Builtin

/-!
# Shell — Programs

How a program is found and run, and what a new shell begins with. A file that may be run is one of
the utilities or a script; a script names its interpreter on its first line, or is one of a shell.
-/

namespace BoardConsole.Shell.Program

open Act

/-! ### A new shell -/

/-- Variables that every shell has. -/
def standing (starter : Nat) : List (String × Variable) :=
  [("IFS", " \t\n"), ("OPTIND", "1"), ("PS1", "# "), ("PS2", "> "), ("PS4", "+ "),
   ("PPID", toString starter)].map fun (name, value) => (name, ⟨some value, false, false⟩)

/-- Where a shell looks for programs if it is not told. -/
def standingSearchPath : String := "/usr/local/sbin:/usr/local/bin:/usr/sbin:/usr/bin:/sbin:/bin"

/-- A new shell in the place of a process. -/
def newShell (p : Process) (name : String) (arguments : List String) (options : List Char) :
    Process :=
  let own := standing p.shell
  let passed := p.store.filterMap fun (name, v) =>
    if v.exported && !own.any (·.1 = name) then some (name, { v with readOnly := false }) else none
  let own := if passed.any (·.1 = "PATH") then own
    else ("PATH", ⟨some standingSearchPath, false, false⟩) :: own
  { p with
    shell := p.number, starter := p.shell, name, arguments, options
    store := own ++ passed, functions := [], aliases := [], status := 0, taken := 0
    lastBackground := none, jobs := [], loops := 0, calls := [], optionIndex := 1, lettersRead := 0
    line := 1, builtin := none, interrupted := none }

/-- What a shell is to run. -/
inductive Task where
  | text (s : String)
  | file (name : String)
  /-- What is to be read from the standard input. -/
  | input
  | nothing (message : String)

/-- What the arguments of a shell ask for: its task, its name, its arguments and its options. -/
structure Order where
  task      : Task
  name      : String
  arguments : List String
  options   : List Char

/-- What has been read of the arguments of a shell. -/
structure Reading where
  rest    : List String
  /-- Whether the text is an argument. -/
  command : Bool
  letters : List Char

/-- Sets an option, or takes it away. -/
def Reading.put (r : Reading) (on : Bool) (letter : Char) : Reading :=
  { r with letters := if on then letter :: r.letters else r.letters.filter (· != letter) }

/-- Reads a letter of an option. -/
def Reading.letter (sign : Char) (r : Reading) (c : Char) : Except String Reading :=
  let on := sign = '-'
  if c = 'c' then .ok { r with command := true }
  else if c = 'l' then .ok r
  else if c = 'o' then
    match r.rest with
    | []            => .ok r
    | name :: after =>
      match Builtin.optionNames.lookup name with
      | some letter => .ok ({ r with rest := after }.put on letter)
      | none        => .error ("Illegal option -o " ++ name)
  else if Builtin.optionLetters.contains c then .ok (r.put on c)
  else .error ("Illegal option -" ++ String.ofList [c])

/-- Reads the options of a shell. -/
def readOptions : (fuel : Nat) → Reading → Except String Reading
  | 0, r => .ok r
  | fuel + 1, r =>
    match r.rest with
    | [] => .ok r
    | a :: rest =>
      match a.toList with
      | ['-', '-'] | ['-'] => .ok { r with rest }
      | sign :: letters =>
        if sign != '-' && sign != '+' then .ok r
        else
          match letters.foldlM (Reading.letter sign) { r with rest } with
          | .error message => .error message
          | .ok r          => readOptions fuel r
      | [] => .ok r

/-- What the arguments of a shell ask for. -/
def order (name : String) (args : List String) : Order :=
  match readOptions (args.length + 1) ⟨args, false, []⟩ with
  | .error message => ⟨.nothing message, name, [], []⟩
  | .ok ⟨rest, true, letters⟩ =>
    match rest with
    | []               => ⟨.nothing "-c requires an argument", name, [], letters⟩
    | [s]              => ⟨.text s, name, [], letters⟩
    | s :: name :: arguments => ⟨.text s, name, arguments, letters⟩
  | .ok ⟨rest, false, letters⟩ =>
    if letters.contains 's' then ⟨.input, name, rest, letters⟩
    else
      match rest with
      | []                => ⟨.input, name, [], 's' :: letters⟩
      | file :: arguments => ⟨.file file, file, arguments, letters⟩

/-- Gives up before the first command of a shell. -/
def refuse (message : String) (status : Nat) : Act Nat := do
  complain ((← process).name ++ ": 0: " ++ message)
  return status

/-- Runs a shell with its arguments in the place of the process. -/
def shell (r : Runner) (name : String) (args : List String) : Act Nat := do
  let o := order name args
  modifyProcess fun p => newShell p o.name o.arguments o.options
  let run (text : String) : Act Nat := do
    r.script false text
    status
  match o.task with
  | .nothing message => refuse message faulty
  | .text s => run s
  | .input =>
    match ← readAll? 0 with
    | .ok text => run text
    | .error _ => return 0
  | .file file =>
    modifyProcess ({ · with name })
    match ← openToRead file with
    | .error reason => refuse ("cannot open " ++ file ++ ": " ++ reason) faulty
    | .ok _ =>
      modifyProcess ({ · with name := file })
      match ← readFile file with
      | .ok text => run text
      | .error _ => return 0

/-! ### Finding and running -/

/-- The interpreter that the first line of a script names, with its argument. -/
def interpreter? (text : String) : Option (List String) :=
  if text.startsWith "#!" then
    let line := ((text.toList.drop 2).takeWhile (· != '\n')).dropWhile Arithmetic.isBlank
    let path := line.takeWhile fun c => !Arithmetic.isBlank c
    let rest := (line.drop path.length).dropWhile Arithmetic.isBlank
    let argument := (rest.reverse.dropWhile Arithmetic.isBlank).reverse
    if path.isEmpty then none
    else some (String.ofList path ::
      (if argument.isEmpty then [] else [String.ofList argument]))
  else none

/-- Runs the file of a program. -/
def runFile (r : Runner) (utilities : List (String × Builtin)) (name file : String)
    (args : List String) : Act (Except Unrun Nat) := do
  match ← kind? true file with
  | none => return .error .missing
  | some (.file, path) =>
    let v ← volume
    if !mayRun (modeAt v path) then return .error .denied
    match if (v.contents? path).isNone then programAt? path else none with
    | some program =>
      match utilities.lookup program with
      | some utility => return .ok (← utility r args)
      | none         => return .ok (← shell r name args)
    | none =>
      let text := ofBytes ((contentsAt? v path).getD [])
      match interpreter? text with
      | some words => r.program (words ++ file :: args)
      | none       => return .ok (← shell r name (file :: args))
  | some _ => return .error .denied

/-- Runs a program with its arguments in the place of the process. -/
def run (r : Runner) (utilities : List (String × Builtin)) (words : List String) :
    Act (Except Unrun Nat) := do
  flushPrinted
  modifyProcess fun p => { p with builtin := none, traps := p.traps.filter (·.2 = "") }
  match words with
  | []           => return .ok 0
  | name :: args =>
    if name.contains '/' then runFile r utilities name name args
    else
      match ← Builtin.findInPath name (← Builtin.searchPath) with
      | some file => runFile r utilities name file args
      | none      => return .error (if name = "" then .denied else .missing)

end BoardConsole.Shell.Program
