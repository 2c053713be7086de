import BoardConsole.Shell.Format
import BoardConsole.Shell.Mode
import BoardConsole.Shell.Options
import BoardConsole.Shell.Runner
import BoardConsole.Shell.Test

/-!
# Shell — Builtins

The commands that the shell runs itself.
-/

/-!
## Builtins for variables and arguments

The builtins that set, show and read variables, options, aliases and arguments.
-/

namespace BoardConsole.Shell

/-- A command that the shell itself carries out. -/
abbrev Builtin := Runner → List String → Act Nat

namespace Builtin

open Act

/-! ### Showing -/

/-- Prints variables, each with its name and its value. -/
def printVariables (before : String) (shown : List (String × Variable)) : Act Unit := do
  for (name, v) in shown.mergeSort fun a b => a.1 ≤ b.1 do
    let value := match v.value with | some s => "=" ++ quotedText s | none => ""
    printLine (before ++ name ++ value)

/-! ### Attributes -/

/-- Gives variables an attribute, and values where they are given. -/
def declare (word : String) (has : Variable → Bool) (set : Variable → Variable) : Builtin :=
  fun _ args => do
    let a ← options "p" args
    if a.has 'p' || a.rest.isEmpty then
      printVariables (word ++ " ") ((← process).store.filter fun v => has v.2)
      return 0
    for argument in a.rest do
      let (name, value) := splitAssignment argument
      checkName name
      match value with
      | some value => assign name value
      | none       => pure ()
      let v := (← variableOf? name).getD ⟨none, false, false⟩
      putVariable name (some (set v))
    return 0

def exportVariables : Builtin :=
  declare "export" (·.exported) ({ · with exported := true })

def readonlyVariables : Builtin :=
  declare "readonly" (·.readOnly) ({ · with readOnly := true })

/-- Makes variables local to the function. -/
def localVariables : Builtin := fun _ args => do
  match (← process).calls with
  | [] => fail "not in a function"
  | _ =>
    for argument in args do
      let (name, value) := splitAssignment argument
      checkName name
      let old ← variableOf? name
      modifyProcess fun p =>
        { p with
          calls := match p.calls with | hidden :: rest => ((name, old) :: hidden) :: rest | [] => [] }
      match value with
      | some value => assign name value
      | none       => if old.isNone then putVariable name (some ⟨none, false, false⟩)
    return 0

/-- Takes variables or functions away. -/
def unset : Builtin := fun _ args => do
  let a ← options "vf" args
  for name in a.rest do
    if a.options.getLast?.any (·.1 = 'f') then
      modifyProcess fun p => { p with functions := p.functions.filter (·.1 != name) }
    else
      checkName name
      if (← variableOf? name).any (·.readOnly) then fail (name ++ ": is read only")
      putVariable name none
  return 0

/-! ### Reading a line -/

/-- A line that is split into some fields. -/
structure Reading where
  /-- The fields still to come after the one that grows; none is left once the last one grows. -/
  left    : Nat
  /-- Whether the separator before was a blank. -/
  blanks  : Bool
  fields  : List String
  current : List Char
  /-- How much of the last field stays if nothing but separators follows. -/
  keeps   : Option Nat

/-- Whether a character separates fields, and whether it is a blank. -/
def separates (separators : List Char) (c : Char) : Bool × Bool :=
  let isSeparator := separators.contains c
  (isSeparator, isSeparator && (c == ' ' || c == '\t' || c == '\n'))

/-- Takes a character that may separate fields. -/
def Reading.take (separators : List Char) (r : Reading) (c : Char) : Reading :=
  let (isSeparator, isBlank) := separates separators c
  let grow (r : Reading) : Reading := { r with current := c :: r.current }
  if r.left = 0 then
    if isBlank then grow { r with keeps := r.keeps.or (some r.current.length) }
    else
      grow { r with keeps := if isSeparator && r.blanks then r.keeps else none, blanks := false }
  else if r.blanks && isBlank then r
  else if r.blanks && isSeparator then { r with blanks := false }
  else if !isSeparator then grow { r with blanks := false }
  else if r.current.isEmpty && isBlank then { r with blanks := false }
  else if r.left = 1 then grow { r with left := 0, keeps := some r.current.length, blanks := isBlank }
  else
    { left := r.left - 1, blanks := isBlank, current := [], keeps := none
      fields := String.ofList r.current.reverse :: r.fields }

/-- The fields of a line in which some characters were escaped. -/
def Reading.split (separators : List Char) (count : Nat) (line : List Quotable) : List String :=
  let r := line.foldl (fun (r : Reading) (c, escaped) =>
    if escaped then { r with current := c :: r.current, blanks := false } else r.take separators c)
    ⟨count, false, [], [], none⟩
  let last := r.current.reverse
  let last := match r.keeps with | some n => last.take n | none => last
  (if last.isEmpty then r.fields else String.ofList last :: r.fields).reverse

/-- A line of the input and whether its end was there. Unless it is read as it is, a backslash
escapes a character, and the end of a line too. -/
def readLogicalLine (asItIs : Bool) : (fuel : Nat) → Act (List Quotable × Bool)
  | 0 => return ([], false)
  | fuel + 1 => do
    match ← readLine? 0 with
    | .error _ => return ([], false)
    | .ok (line, ended) =>
      let chars := line.toList.filter (· != '\x00')
      if asItIs then return (chars.map (·, false), ended)
      let text := Pattern.unescape (chars.map (·, false))
      match text.getLast? with
      | some ('\\', false) =>
        if !ended then return (text.dropLast, false)
        let (more, ended) ← readLogicalLine asItIs fuel
        return (text.dropLast ++ more, ended)
      | _ => return (text, ended)

/-- The most lines that are joined to one. -/
def greatestJoin : Nat := 100000

/-- Reads a line into variables. -/
def read : Builtin := fun _ args => do
  let a ← options "p:r" args
  if a.rest.isEmpty then fail "arg count"
  let (line, ended) ← readLogicalLine (a.has 'r') greatestJoin
  let fields := Reading.split (← separators).characters a.rest.length line
  for (name, n) in a.rest.zipIdx do
    checkName name
    assign name (fields.getD n "")
  return if ended then 0 else 1

/-! ### Options -/

/-- The end of reading the options of arguments: the variable, the letter and where it ended. -/
def finishOption (target : String) (letter : Char) (index read : Nat) (done : Bool) :
    Act Nat := do
  let v := (← variableOf? "OPTIND").getD ⟨none, false, false⟩
  putVariable "OPTIND" (some { v with value := some (toString index) })
  modifyProcess ({ · with optionIndex := index, lettersRead := read })
  checkName target
  assign target (String.ofList [letter])
  return if done then 1 else 0

/-- Reads the next option of the arguments. -/
def getopts : Builtin := fun _ args => do
  match args with
  | known :: target :: given =>
    let p ← process
    let all := if given.isEmpty then p.arguments else given
    let index := if all.length + 1 < p.optionIndex then 1 else p.optionIndex
    let read := if index = 1 then 0 else p.lettersRead
    let silent := known.startsWith ":"
    let current := if read = 0 then [] else ((all[index - 2]?).getD "").toList
    let (letters, read, index, atEnd) :=
      if read < current.length then (current.drop read, read, index, false)
      else
        match all[index - 1]? with
        | none => ([], 0, index, true)
        | some a =>
          match a.toList with
          | ['-', '-']       => ([], 0, index + 1, true)
          | '-' :: c :: rest => (c :: rest, 1, index + 1, false)
          | _                => ([], 0, index, true)
    match atEnd, letters with
    | true, _ | _, [] => finishOption target '?' index 0 true
    | false, c :: more =>
      let read := read + 1
      match Arguments.need? known.toList c with
      | none =>
        if silent then assign "OPTARG" (String.ofList [c])
        else
          complain ("Illegal option -" ++ String.ofList [c])
          putVariable "OPTARG" none
        finishOption target '?' index read false
      | some .nothing =>
        assign "OPTARG" ""
        finishOption target c index read false
      | some _ =>
        match more.isEmpty, all[index - 1]? with
        | false, _ =>
          assign "OPTARG" (String.ofList more)
          finishOption target c index 0 false
        | true, some value =>
          assign "OPTARG" value
          finishOption target c (index + 1) 0 false
        | true, none =>
          if silent then
            assign "OPTARG" (String.ofList [c])
            finishOption target ':' index read false
          else
            complain ("No arg for -" ++ String.ofList [c] ++ " option")
            putVariable "OPTARG" none
            finishOption target '?' index read false
  | _ => fail "Usage: getopts optstring var [arg...]"

/-- The options of a shell, by name; those that no letter sets have none. -/
def optionNames : List (String × Char) :=
  [("errexit", 'e'), ("noglob", 'f'), ("ignoreeof", 'I'), ("interactive", 'i'), ("monitor", 'm'),
   ("noexec", 'n'), ("stdin", 's'), ("xtrace", 'x'), ("verbose", 'v'), ("vi", 'V'), ("emacs", 'E'),
   ("noclobber", 'C'), ("allexport", 'a'), ("notify", 'b'), ("nounset", 'u'), ("privileged", 'p'),
   ("nolog", '1'), ("debug", '2')]

/-- The options that letters set. -/
def optionLetters : List Char := (optionNames.map (·.2)).filter (!·.isDigit)

/-- Sets an option, or takes it away. -/
def setOption (on : Bool) (letter : Char) : Act Unit :=
  modifyProcess fun p =>
    let rest := p.options.filter (· != letter)
    { p with options := if on then letter :: rest else rest }

/-- Prints the options. -/
def printOptions (on : Bool) : Act Unit := do
  if on then printLine "Current option settings"
  for (name, letter) in optionNames do
    let isOn ← isSet letter
    if on then printLine (name ++ repeated (16 - name.length) ' ' ++ (if isOn then "on" else "off"))
    else printLine ("set " ++ (if isOn then "-o " else "+o ") ++ name)

/-- Sets the options of one argument; `o` takes the name of one from the next argument. -/
def setLetters (on : Bool) : List Char → List String → Act (List String)
  | [], rest => return rest
  | 'o' :: more, rest => do
    match rest with
    | [] =>
      printOptions on
      setLetters on more []
    | name :: after =>
      match optionNames.lookup name with
      | some letter =>
        setOption on letter
        setLetters on more after
      | none => fail ("Illegal option -o " ++ name)
  | c :: more, rest => do
    if !optionLetters.contains c then
      fail ("Illegal option -" ++ String.ofList [c])
    setOption on c
    setLetters on more rest

/-- Sets the options of arguments. Answers the arguments after them, where there are any or where
`--` ends the options. -/
def setOptions : (fuel : Nat) → List String → Act (Option (List String))
  | 0, _ => return none
  | _, [] => return none
  | fuel + 1, a :: rest => do
    match a.toList with
    | ['-', '-'] => return some rest
    | ['-'] =>
      setOption false 'x'
      setOption false 'v'
      return if rest.isEmpty then none else some rest
    | '-' :: letters => setOptions fuel (← setLetters true letters rest)
    | '+' :: letters => setOptions fuel (← setLetters false letters rest)
    | _              => return some (a :: rest)

/-- Sets options and arguments. -/
def set : Builtin := fun _ args => do
  if args.isEmpty then
    printVariables "" ((← process).store.filter fun v => v.2.value.isSome)
    return 0
  match ← setOptions (args.length + 1) args with
  | some arguments => modifyProcess ({ · with arguments, optionIndex := 1, lettersRead := 0 })
  | none           => pure ()
  return 0

/-- Drops arguments. -/
def shift : Builtin := fun _ args => do
  let n ← match args with
    | []     => pure 1
    | a :: _ => number a
  if (← process).arguments.length < n then fail "can't shift that many"
  modifyProcess fun p =>
    { p with arguments := p.arguments.drop n, optionIndex := 1, lettersRead := 0 }
  return 0

/-! ### Aliases -/

/-- An alias as it is shown. -/
def shownAlias (name text : String) : String := name ++ "=" ++ quotedText text

/-- Sets and shows aliases. -/
def alias_ : Builtin := fun _ args => do
  if args.isEmpty then
    for (name, text) in (← process).aliases.mergeSort fun a b => a.1 ≤ b.1 do
      printLine (shownAlias name text)
    return 0
  let mut status := 0
  for a in args do
    match splitAssignment a with
    | (name, some text) =>
      modifyProcess fun p => { p with aliases := (name, text) :: p.aliases.filter (·.1 != name) }
    | (name, none) =>
      match (← process).aliases.lookup name with
      | some text => printLine (shownAlias name text)
      | none =>
        complain ("alias: " ++ name ++ " not found")
        status := 1
  return status

/-- Takes aliases away. -/
def unalias : Builtin := fun _ args => do
  let a ← options "a" args
  if a.has 'a' then
    modifyProcess ({ · with aliases := [] })
    return 0
  let mut status := 0
  for name in a.rest do
    if ((← process).aliases.lookup name).isNone then
      complain ("unalias: " ++ name ++ " not found")
      status := 1
    modifyProcess fun p => { p with aliases := p.aliases.filter (·.1 != name) }
  return status

end Builtin

end BoardConsole.Shell

/-!
## Builtins for the surroundings

The working directory, the permissions of new files, conditions, and printing.
-/

namespace BoardConsole.Shell.Builtin

open Act

/-! ### The working directory -/

/-- The components of an absolute name, each `..` taken together with what is in front of it. -/
def settled (components : List String) : List String :=
  (components.foldl (fun acc c => if c = ".." then acc.tail else c :: acc) []).reverse

/-- The name that a name of a directory has, seen from the working directory. -/
def logicalName (here name : String) : String :=
  let start := if name.startsWith "/" then [] else Volume.components here
  "/" ++ "/".intercalate (settled (start ++ Volume.components name))

/-- The name of the working directory without links. -/
def physicalName : Act String := do
  return ofWorld (Volume.nameOf ((← volume).absolute (← process).directory))

/-- Sets a variable that is exported. -/
def export_ (name value : String) : Act Unit := do
  assign name value
  putVariable name (some ⟨some value, true, false⟩)

/-- Makes a directory the working directory. Answers whether there is one. -/
def enter (physical : Bool) (name : String) : Act Bool := do
  let before := (← process).directoryName
  let logical := logicalName before name
  match ← kind? true (if physical then name else logical) with
  | some (.directory, path) =>
    modifyProcess ({ · with directory := path })
    let after ← if physical then physicalName else pure logical
    modifyProcess ({ · with directoryName := after })
    export_ "OLDPWD" before
    export_ "PWD" after
    return true
  | _ => return false

/-- The directories in which a name is looked for first. -/
def directoriesFor (name : String) : Act (List String) := do
  let own := match name.toList with
    | '/' :: _ | ['.'] | ['.', '.'] | '.' :: '/' :: _ | '.' :: '.' :: '/' :: _ => true
    | _ => false
  if own then return []
  return ((← valueOf "CDPATH").splitOn ":").filter (· != "")

/-- Changes the working directory. -/
def cd : Builtin := fun _ args => do
  let a ← options "LP" args
  let physical := (a.options.getLast?.map (·.1)) = some 'P'
  let given := a.rest.head?
  let name ← match given with
    | none     => valueOf "HOME"
    | some "-" => valueOf "OLDPWD"
    | some s   => pure s
  for directory in ← directoriesFor name do
    let full := below directory name
    match ← kind? true full with
    | some (.directory, _) =>
      let _ ← enter physical full
      printLine (← process).directoryName
      return 0
    | _ => pure ()
  if ← enter physical (if name = "" then "." else name) then
    if given = some "-" then printLine (← process).directoryName
    return 0
  else fail ("can't cd to " ++ name)

/-- Prints the working directory. -/
def pwd : Builtin := fun _ args => do
  let a ← options "LP" args
  if (a.options.getLast?.map (·.1)) = some 'P' then printLine (← physicalName)
  else printLine (← process).directoryName
  return 0

/-! ### Permissions and limits -/

/-- Shows or sets the permissions that new files do not get. -/
def umask : Builtin := fun _ args => do
  let a ← options "S" args
  let mask := (← process).mask
  let allowed := 0o777 ^^^ mask
  match a.rest with
  | [] =>
    if a.has 'S' then
      printLine ("u=" ++ Mode.letters (allowed / 64) ++ ",g=" ++ Mode.letters (allowed / 8 % 8) ++
        ",o=" ++ Mode.letters (allowed % 8))
    else printLine (String.ofList (Decimal.digitsOf 0 1 ++ octalDigits mask))
    return 0
  | s :: _ =>
    if (s.toList.head?).any Char.isDigit then
      match Mode.octal? s with
      | some n => modifyProcess ({ · with mask := n % 0o1000 })
      | none   => fail ("Illegal number: " ++ s)
    else
      match Mode.ofText? false 0 allowed s with
      | some n => modifyProcess ({ · with mask := 0o777 ^^^ (n % 0o1000) })
      | none   => fail ("Illegal mode: " ++ s)
    return 0
where
  /-- Three octal digits. -/
  octalDigits (n : Nat) : List Char :=
    [n / 64 % 8, n / 8 % 8, n % 8].map fun d => Char.ofNat (48 + d)

/-- Shows limits, of which there are none. -/
def ulimit : Builtin := fun _ args => do
  let a ← options "HSatfdsmcnpvlwr" args
  if a.rest.isEmpty && !a.has 'a' then printLine "unlimited"
  return 0

/-- Shows the time that was used. -/
def times : Builtin := fun _ _ => do
  printLine "0m0.000000s 0m0.000000s"
  printLine "0m0.000000s 0m0.000000s"
  return 0

/-! ### Conditions and printing -/

def true_ : Builtin := fun _ _ => return 0

def false_ : Builtin := fun _ _ => return 1

def test : Builtin := fun _ args => Test.status args

/-- A condition in brackets. The last argument closes it by its first character. -/
def bracket : Builtin := fun _ args => do
  if (args.getLast?.getD "").startsWith "]" then Test.status args.dropLast else fail "missing ]"

/-- Prints arguments. -/
def echo : Builtin := fun _ args => do
  let (ends, args) := if args.head? = some "-n" then (false, args.tail) else (true, args)
  let (text, stops) := Format.unescaped (" ".intercalate args)
  print (if ends && !stops then text ++ "\n" else text)
  return 0

/-- Prints arguments by a format. -/
def printf : Builtin := fun _ args => do
  match ← withoutOptions args with
  | []             => fail "usage: printf format [arg ...]"
  | format :: args => Format.run format args

end BoardConsole.Shell.Builtin

/-!
## What a name of a command stands for

A name is looked for among the functions, the builtins, and the programs in the directories of the
search path, in this order.
-/

namespace BoardConsole.Shell

/-- What a name of a command stands for. -/
inductive Meaning where
  | function (body : Command)
  | builtin
  | program (path : String)
  | unknown

namespace Builtin

open Act

/-- The builtins that can be hidden by a function. -/
def regularNames : List String :=
  ["[", "alias", "bg", "cd", "chdir", "command", "echo", "false", "fg", "getopts", "hash", "jobs",
   "kill", "printf", "pwd", "read", "test", "true", "type", "ulimit", "umask", "unalias", "wait"]

/-- The builtins that fail for good, `local` among them. -/
def isFatal (name : String) : Bool := Reader.specialBuiltins.contains name || name == "local"

def isBuiltin (name : String) : Bool := isFatal name || regularNames.contains name

/-- The directories in which programs are looked for. -/
def searchPath : Act (List String) := do
  return (← valueOf "PATH").splitOn ":"

/-- The first file of a name in the search path. -/
def findInPath (name : String) : List String → Act (Option String)
  | [] => return none
  | directory :: rest => do
    let full := if directory = "" then name else below directory name
    match ← kind? true full with
    | some (.file, _) => return some full
    | _               => findInPath name rest

/-- What a name stands for; functions are left out where they are not meant. -/
def meaning (name : String) (functions : Bool) : Act Meaning := do
  if name.contains '/' then return .program name
  let known := (← process).functions
  match if functions then known.lookup name else none with
  | some body => return .function body
  | none =>
    if isBuiltin name then return .builtin
    match ← findInPath name (← searchPath) with
    | some path => return .program path
    | none      => return .unknown

/-- How the meaning of a name is described, in words or as it is used. -/
def describe (words : Bool) (name : String) : Act (Option String) := do
  let say (s : String) : Option String := some (if words then name ++ s else name)
  if Reader.keywords.contains name then return say " is a shell keyword"
  match (← process).aliases.lookup name with
  | some text =>
    return some (if words then name ++ " is an alias for " ++ text
      else "alias " ++ shownAlias name text)
  | none =>
    match ← meaning name true with
    | .function _ => return say " is a shell function"
    | .builtin =>
      return say (if isFatal name then " is a special shell builtin" else " is a shell builtin")
    | .program path =>
      if name.contains '/' && (← kind? true name).isNone then return none
      return some (if words then name ++ " is " ++ path else path)
    | .unknown => return none

/-- Prints the meanings of names in words. -/
def type : Builtin := fun _ args => do
  let mut status := 0
  for name in ← withoutOptions args do
    match ← describe true name with
    | some text => printLine text
    | none =>
      printLine (name ++ ": not found")
      status := 127
  return status

/-- Prints the meaning of a name; this is what `command` does with options. -/
def command : Builtin := fun _ args => do
  let a ← options "pvV" args
  match a.rest with
  | [] => return 0
  | name :: _ =>
    match ← describe (a.has 'V') name with
    | some text =>
      printLine text
      return 0
    | none =>
      if a.has 'V' then printLine (name ++ ": not found")
      return 127

/-- Looks for programs. -/
def hash : Builtin := fun _ args => do
  let a ← options "rv" args
  let mut status := 0
  for name in a.rest do
    match ← meaning name true with
    | .unknown =>
      warn (name ++ ": not found")
      status := 1
    | _ => pure ()
  return status

end Builtin

end BoardConsole.Shell

/-!
## Builtins for control

The builtins that leave loops, functions and shells, run texts and scripts, and deal with processes
and signals.
-/

namespace BoardConsole.Shell.Builtin

open Act

/-! ### Leaving -/

/-- How many loops are left, of those there are. -/
def loopCount (args : List String) : Act Nat := do
  let n ← match args with
    | []     => pure 1
    | a :: _ => do
      let n ← number a
      if n = 0 then fail ("Illegal number: " ++ a) else pure n
  return min n (← process).loops

/-- Leaves loops. -/
def break_ : Builtin := fun _ args => do
  match ← loopCount args with
  | 0 => return 0
  | n =>
    setStatus 0
    throw (.broken n)

/-- Goes on with the next turn of a loop. -/
def continue_ : Builtin := fun _ args => do
  match ← loopCount args with
  | 0 => return 0
  | n =>
    setStatus 0
    throw (.continued n)

/-- Leaves a function or a script. -/
def return_ : Builtin := fun _ args => do
  match args with
  | []     => pure ()
  | a :: _ => setStatus (← number a)
  throw .returned

/-- Ends the shell. -/
def exit : Builtin := fun _ args => do
  match args with
  | [] =>
    match (← process).interrupted with
    | some status => setStatus status
    | none        => pure ()
  | a :: _ => setStatus (← number a)
  throw .exited

/-! ### Running texts -/

/-- Runs its arguments as a text. -/
def eval : Builtin := fun r args => do
  r.script r.tested (" ".intercalate args)
  status

/-- The file of a script. -/
def scriptFile (name : String) : Act String := do
  if name.contains '/' then return name
  match ← findInPath name (← searchPath) with
  | some path => return path
  | none      => fail (name ++ ": not found")

/-- Runs the script of a file in this shell. -/
def dot : Builtin := fun r args => do
  match ← withoutOptions args with
  | [] => return 0
  | name :: _ =>
    let file ← scriptFile name
    match ← openToRead file with
    | .error reason => fail ("cannot open " ++ file ++ ": " ++ reason)
    | .ok _ =>
      match ← readFile file with
      | .error reason => fail (file ++ ": " ++ reason)
      | .ok text =>
        let outer := (← process).builtin
        modifyProcess ({ · with builtin := some file })
        ensuring
          (do
            try r.script false text
            catch
              | .returned => pure ()
              | stop      => throw stop)
          (modifyProcess ({ · with builtin := outer }))
        status

/-! ### Signals -/

/-- The signal of a name or a number. -/
def signal? (s : String) : Option Nat := Signal.ofText? s

/-- Sets what is done at signals, or shows it. -/
def trap : Builtin := fun _ args => do
  match ← withoutOptions args with
  | [] =>
    for (signal, action) in (← process).traps.mergeSort fun a b => a.1 ≤ b.1 do
      printLine ("trap -- " ++ quotedText action ++ " " ++ Signal.nameOf signal)
    return 0
  | first :: rest =>
    let (action, names) :=
      if rest.isEmpty then (none, [first])
      else if first = "-" then (none, rest)
      else (some first, rest)
    for name in names do
      match signal? name with
      | none =>
        complain ("trap: " ++ name ++ ": bad trap")
        return 1
      | some signal =>
        modifyProcess fun p =>
          let others := p.traps.filter (·.1 != signal)
          { p with traps := match action with | some a => (signal, a) :: others | none => others }
    return 0

/-- How `kill` is used. -/
def killUsage : String :=
  "Usage: kill [-s sigspec | -signum | -sigspec] [pid | job]... or\nkill -l [exitstatus]"

/-- The number of the process that an argument means. -/
def target (s : String) : Act Int := do
  match s.toList with
  | '%' :: digits =>
    let n := Arithmetic.valueOf 10 digits
    match (← process).jobs[n - 1]? with
    | some process => return process
    | none         => fail ("No such job: " ++ s)
  | '-' :: digits => return -(← number (String.ofList digits) : Nat)
  | _             => return (← number s : Nat)

/-- Prints the names of signals. -/
def listSignals (statuses : List String) : Act Nat := do
  match statuses with
  | [] =>
    for n in List.range (Signal.names.length + 1) do
      printLine (if n = 0 then "0" else Signal.nameOf n)
    return 0
  | s :: _ =>
    let n ← number s
    printLine (Signal.nameOf (if 128 < n then n - 128 else n))
    return 0

/-- Sends signals. -/
def kill : Builtin := fun _ args => do
  match args with
  | [] => fail killUsage
  | first :: rest =>
    let named := match first.toList with
      | '-' :: name => signal? (String.ofList name)
      | _           => none
    let (list, signal, targets) ←
      match named with
      | some n => pure (false, n, rest)
      | none => do
        let a ← options "ls:" args
        let signal ← match a.last? 's' with
          | none   => pure 15
          | some s =>
            match signal? s with
            | some n => pure n
            | none   => fail ("invalid signal number or name: " ++ s)
        pure (a.has 'l', signal, a.rest)
    if list then return ← listSignals targets
    if targets.isEmpty then fail killUsage
    let mut status := 0
    for s in targets do
      let n ← target s
      let sent ← if n < 0 then send n.natAbs signal else send n.toNat signal
      if !sent then
        warn "No such process\n"
        status := 1
    return status

/-! ### The background -/

/-- Waits for processes of the background. -/
def wait : Builtin := fun r args => do
  match ← withoutOptions args with
  | [] =>
    for number in (← process).jobs do
      let _ ← await r number
    return 0
  | targets =>
    let mut status := 127
    for s in targets do
      match ← await r (← target s).toNat with
      | some ended =>
        match Signal.report? (ended - 128) with
        | some text => if 128 < ended then complain text
        | none      => pure ()
        status := ended
      | none => status := 127
    return status

/-- Shows the processes of the background, and forgets those that have ended. -/
def jobs : Builtin := fun _ args => do
  let _ ← options "lp" args
  let ended := (← world).ended
  let all := (← process).jobs
  for (number, n) in all.zipIdx do
    let state := if (ended.lookup number).isSome then "Done   " else "Running"
    printLine ("[" ++ toString (n + 1) ++ "] + " ++ state ++ repeated 20 ' ')
  modifyProcess ({ · with jobs := all.filter fun number => (ended.lookup number).isNone })
  return 0

/-- Waits for a process of the background in the foreground. -/
def foreground : Builtin := fun r args => do
  match (← process).jobs.getLast?, args with
  | none, []   => fail "No current job"
  | some n, [] =>
    modifyProcess fun p => { p with jobs := p.jobs.dropLast }
    return (← await r n).getD 0
  | _, s :: _ => return (← await r (← target s).toNat).getD 127

/-- Lets a process go on in the background. -/
def background : Builtin := fun _ args => do
  if (← process).jobs.isEmpty && args.isEmpty then fail "No current job" else return 0

/-! ### All builtins -/

/-- The builtins by name, but those that run a command of their own. -/
def all : List (String × Builtin) :=
  [(".", dot), (":", true_), ("[", bracket), ("alias", alias_), ("bg", background),
   ("break", break_), ("cd", cd), ("chdir", cd), ("command", command), ("continue", continue_),
   ("echo", echo), ("eval", eval), ("exit", exit), ("export", exportVariables), ("false", false_),
   ("fg", foreground), ("getopts", getopts), ("hash", hash), ("jobs", jobs), ("kill", kill),
   ("local", localVariables), ("printf", printf), ("pwd", pwd), ("read", read),
   ("readonly", readonlyVariables), ("return", return_), ("set", set), ("shift", shift),
   ("test", test), ("times", times), ("trap", trap), ("true", true_), ("type", type),
   ("ulimit", ulimit), ("umask", umask), ("unalias", unalias), ("unset", unset), ("wait", wait)]

end BoardConsole.Shell.Builtin
