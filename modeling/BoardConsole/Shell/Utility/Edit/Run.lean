import BoardConsole.Shell.Runner
import BoardConsole.Shell.Utility.Edit.Script

/-!
# Shell — Running scripts that edit lines

Each line is put into a space; the commands whose lines include it change that space, and at last it
is printed. A second space is held from line to line. What is printed is kept in mind until it is
written, with whether the end of the last line is missing: it is added if more follows.
-/

namespace BoardConsole.Shell.Utility.Edit

/-! ### Lines -/

/-- A line of an input, and whether its end was there. -/
abbrev Line := String × Bool

/-- The lines of a text, each with whether its end was there. -/
def linesOfInput (ending : Char) (text : String) : List Line :=
  let mark := String.ofList [ending]
  match (text.splitOn mark).reverse with
  | ""   :: rest => (rest.map (·, true)).reverse
  | last :: rest => ((last, false) :: rest.map (·, true)).reverse
  | []           => []

/-- The text that lines were read from. -/
def textOfLines (ending : Char) (lines : List Line) : String :=
  String.join (lines.map fun (line, ended) => if ended then line.push ending else line)

/-! ### State -/

/-- What has been printed to a place, last first, and whether the end of its last line is missing. -/
structure Output where
  parts   : List String
  missing : Bool

def Output.empty : Output := ⟨[], false⟩

/-- What is printed behind a line. -/
inductive Queued where
  | text (s : String)
  | file (name : String)

/-- How a script is run. -/
structure Settings where
  commands : Array Command
  quiet    : Bool
  /-- Whether inputs are edited one by one. -/
  separate : Bool
  /-- What the name of the old file ends in, if the files themselves are edited. -/
  inPlace  : Option String
  ending   : Char
  /-- The width of lines that are shown without doubt. -/
  width    : Nat

/-- The state of a script that runs. -/
structure State where
  space    : String
  held     : String
  number   : Nat
  /-- Whether the end of the line in the space was there. -/
  ended    : Bool
  /-- The lines of the input that have not been read. -/
  input    : List Line
  /-- The name of the input, if one is open. -/
  name     : Option String
  /-- The inputs that follow. -/
  names    : List String
  /-- What is printed behind the line, last first. -/
  queue    : List Queued
  /-- Whether something was replaced since the line was read. -/
  replaced : Bool
  /-- For the ranges that are open, by the number of the command, the last line if it is known. -/
  ranges   : List (Nat × Option Nat)
  regex    : Option Sought
  out      : Output
  /-- What is written to files that is not there yet. -/
  files    : List (String × Output)
  /-- The lines of files that are read line by line. -/
  readers  : List (String × List Line)
  /-- How much of the standard input has been opened, if it is. -/
  taken    : Option Nat
  status   : Nat

/-- The state before the first line. -/
def State.first (names : List String) : State :=
  { space := "", held := "", number := 0, ended := true, input := [], name := none, names
    queue := [], replaced := false, ranges := [], regex := none, out := .empty, files := []
    readers := [], taken := none, status := 0 }

/-- What runs a script. -/
abbrev Edits := StateT State Act

/-! ### Printing -/

/-- An output with the end of its last line, if that is missing. -/
def Output.completed (o : Output) (ending : Char) : Output :=
  if o.missing then ⟨String.ofList [ending] :: o.parts, false⟩ else o

/-- An output with a text added. -/
def Output.add (o : Output) (ending : Char) (text : String) : Output :=
  let o := o.completed ending
  { o with parts := text :: o.parts }

/-- An output with a line added, whose end may be missing. -/
def Output.addLine (o : Output) (ending : Char) (line : String) (ended : Bool) : Output :=
  let o := o.completed ending
  ⟨(if ended then line.push ending else line) :: o.parts, !ended⟩

/-- Prints a text. -/
def emit (s : Settings) (text : String) : Edits Unit :=
  modify fun st => { st with out := st.out.add s.ending text }

/-- Prints a line with an end like that of the line in the space. -/
def emitLine (s : Settings) (line : String) : Edits Unit :=
  modify fun st => { st with out := st.out.addLine s.ending line st.ended }

/-- Prints the space. -/
def printSpace (s : Settings) : Edits Unit := do emitLine s (← get).space

/-- Writes what was printed; files that are edited themselves are written at their ends. -/
def writeOut (s : Settings) : Edits Unit := do
  if s.inPlace.isNone then
    let text := String.join (← get).out.parts.reverse
    modify fun st => { st with out := { st.out with parts := [] } }
    if !text.isEmpty then
      match ← Act.write 1 text with
      | none => pure ()
      | some fault =>
        Act.complain ("sed: couldn't write " ++ toString text.length ++ " items to stdout: " ++
          fault.reason)
        modify fun st => { st with status := 4 }

/-- Writes what is meant for files. -/
def writeFiles : Edits Unit := do
  for (name, o) in (← get).files do
    if !o.parts.isEmpty then
      let text := String.join o.parts.reverse
      if name = "/dev/stderr" then
        let _ ← Act.write 2 text
      else
        let _ ← Act.writeFile name text true
  modify fun st => { st with files := st.files.map fun (name, o) => (name, { o with parts := [] }) }

/-- Adds a line to a file. -/
def addToFile (s : Settings) (name line : String) : Edits Unit := do
  if name = "/dev/stdout" then
    if s.inPlace.isSome then
      let _ ← Act.write 1 (if (← get).ended then line.push s.ending else line)
    else emitLine s line
  else
    modify fun st =>
      let old := (st.files.lookup name).getD .empty
      { st with files := (name, old.addLine s.ending line st.ended) :: st.files.filter (·.1 != name) }

/-- Prints what is to be printed behind the line. -/
def flushQueue (s : Settings) : Edits Unit := do
  let queue := (← get).queue
  if queue.isEmpty then return
  modify ({ · with queue := [] })
  for q in queue.reverse do
    match q with
    | .text t => emit s t
    | .file name =>
      writeFiles
      match ← Act.readFile name with
      | .ok text => if text != "" then emit s text
      | .error _ => pure ()

/-! ### Input -/

/-- Writes a file that is edited itself, at its end. -/
def closeEdited (suffix name : String) : Edits Unit := do
  let text := String.join (← get).out.parts.reverse
  modify ({ · with out := .empty })
  match ← Act.resolve true name with
  | .error _ => pure ()
  | .ok path =>
    let mode := Act.modeAt (← Act.volume) path
    if suffix != "" then
      let last := lastOf name
      let other := if suffix.contains '*' then suffix.replace "*" last else last ++ suffix
      let other := if other.contains '/' then other else directoryWith name ++ other
      match ← Act.resolve false other with
      | .ok target => Act.movePath path target
      | .error _   => Act.deletePath path
    else Act.deletePath path
    let v := (← Act.volume).put path (toBytes text)
    Act.setVolume (if mode = 0o644 then v else v.setMode path mode)
where
  /-- The last component of a name. -/
  lastOf (name : String) : String :=
    String.ofList (name.toList.reverse.takeWhile (· != '/')).reverse
  /-- What stands in front of it. -/
  directoryWith (name : String) : String :=
    String.ofList (name.toList.reverse.dropWhile (· != '/')).reverse

/-- Opens an input. -/
def openInput (s : Settings) (name : String) : Edits Unit := do
  let failed (message : String) (status : Nat) : Edits Unit := do
    Act.complain ("sed: " ++ message)
    modify fun st => { st with status := if st.status = 4 then 4 else status, name := none }
  let isStandard : Bool := name = "-" && s.inPlace.isNone
  let found ←
    if isStandard then (do return (← Act.peekAll? 0).mapError (·.reason) : Act (Except String String))
    else Act.readFile name
  match found with
  | .ok text =>
    modify fun st =>
      { st with
        input := linesOfInput s.ending text, name := some name
        taken := if isStandard then some text.length else st.taken }
  | .error reason =>
    if reason = PathFault.isADirectory.reason then
      if s.inPlace.isSome then failed ("couldn't edit " ++ name ++ ": not a regular file") 4
      else failed ("read error on " ++ name ++ ": " ++ reason) 4
    else failed ("can't read " ++ name ++ ": " ++ reason) 2

/-- Closes the input. -/
def closeInput (s : Settings) : Edits Unit := do
  let st ← get
  match st.name, s.inPlace with
  | some name, some suffix => closeEdited suffix name
  | _, _ => pure ()
  match st.name, st.taken with
  | some "-", some count =>
    if s.inPlace.isNone then
      let rest := (textOfLines s.ending st.input).length
      Act.takePart 0 (count - rest) st.input.isEmpty
      modify ({ · with taken := none })
  | _, _ => pure ()
  modify ({ · with name := none, input := [] })

/-- Goes on to the next input that is not empty. Answers whether there is one. -/
def advance (s : Settings) : (fuel : Nat) → Edits Bool
  | 0 => return false
  | fuel + 1 => do
    if !(← get).input.isEmpty then return true
    if (← get).name.isSome then closeInput s
    match (← get).names with
    | [] => return false
    | name :: rest =>
      modify ({ · with names := rest })
      openInput s name
      if s.separate && (← get).name.isSome then modify ({ · with number := 0, ranges := [] })
      advance s fuel

/-- Whether the line is the last one. -/
def isLast (s : Settings) : Edits Bool := do
  if !(← get).input.isEmpty then return false
  if s.separate then return true
  return !(← advance s ((← get).names.length + 2))

/-- Puts the next line into the space, behind what is there if that is kept. Answers whether there is
one. -/
def readNext (s : Settings) (keeps : Bool) : Edits Bool := do
  flushQueue s
  modify ({ · with replaced := false })
  if !(← advance s ((← get).names.length + 2)) then return false
  match (← get).input with
  | [] => return false
  | (line, ended) :: rest =>
    modify fun st =>
      { st with
        space  := if keeps then (st.space.push s.ending) ++ line else line
        ended, input := rest, number := st.number + 1 }
    return true

/-! ### Selecting lines -/

/-- The first match of an expression in a text, the one used last where none is given. -/
def search (r : Option Sought) (text : List Char) : Edits (Option Regex.Match) := do
  match r.or (← get).regex with
  | none => return none
  | some r =>
    modify ({ · with regex := some r })
    return r.regex.find r.anyCase text

/-- Whether an address selects the line. -/
def meets (s : Settings) : Address → Edits Bool
  | .line n => return (← get).number = n
  | .last   => isLast s
  | .regex r => return (← search r (← get).space.toList).isSome
  | .step first step => do
    let n := (← get).number
    return first ≤ n && (n - first) % step = 0

/-- Whether a selection holds of the line; ranges are opened and closed. -/
def selects (s : Settings) (index : Nat) : Selection → Edits Bool
  | .all   => return true
  | .one a => meets s a
  | .range first last => do
    let close : Edits Unit := modify fun st => { st with ranges := st.ranges.filter (·.1 != index) }
    let begin (until_ : Option Nat) : Edits Unit :=
      modify fun st => { st with ranges := (index, until_) :: st.ranges.filter (·.1 != index) }
    let n := (← get).number
    let startsBefore := match first with
      | .line 0 => n = 1
      | _       => false
    let known := (← get).ranges.lookup index
    match if startsBefore && known.isNone then some none else known with
    | some (some lastLine) =>
      if n < lastLine then return true
      close
      if n = lastLine then return true
      let starts ← meets s first
      return starts
    | some none =>
      match last with
      | .address a =>
        if ← meets s a then close else begin none
        return true
      | _ => return true
    | none =>
      if !(← meets s first) then return false
      match last with
      | .address (.line m) => if n < m then begin (some m)
      | .address _         => begin none
      | .count m           => if 0 < m then begin (some (n + m))
      | .multiple m        => if m != 0 then begin (some ((n / m + 1) * m))
      return true

/-- Whether a range is open behind the line. -/
def isOpen (index : Nat) : Edits Bool := return ((← get).ranges.lookup index).isSome

/-! ### Substitution -/

/-- A text as folding of letters asks for: of all letters, and of the next one. -/
def foldText (all one : Option Bool) (cs : List Char) : List Char :=
  let change (upper : Option Bool) (c : Char) : Char :=
    match upper with
    | some true  => c.toUpper
    | some false => c.toLower
    | none       => c
  match cs with
  | []        => []
  | c :: rest => change (one.or all) c :: rest.map (change all)

/-- What a match is replaced with. -/
def replacement (m : Regex.Match) : (all one : Option Bool) → List Piece → List Char
  | _, _, [] => []
  | all, _, .fold upper true :: rest => replacement m all upper rest
  | _, one, .fold upper false :: rest => replacement m upper one rest
  | all, one, .text cs :: rest => foldText all one cs ++ replacement m all none rest
  | all, one, .group n :: rest =>
    let text := if n = 0 then m.text else (m.groups.lookup n).getD []
    foldText all one text ++ replacement m all (if text.isEmpty then one else none) rest

/-- A text with matches replaced from some number on, and whether there were any. -/
def substituteFrom (r : Sought) (s : Substitution) : (fuel : Nat) → (count : Nat) →
    (afterMatch : Bool) → (before : List Char) → List Char → List Char × Bool
  | 0, _, _, _, cs => (cs, false)
  | fuel + 1, count, afterMatch, before, cs =>
    match Regex.findBehind r.anyCase r.regex before cs with
    | none => (cs, false)
    | some m =>
      let first := s.first.getD 1
      -- An empty match right behind another one does not count.
      let counts := !(m.text.isEmpty && m.before.isEmpty && afterMatch)
      let count' := if counts then count + 1 else count
      let replaces := counts && (count' = first || (s.all && first ≤ count'))
      let put := if replaces then replacement m none none s.pieces else m.text
      let done := replaces && !s.all
      let passed := m.text.reverse ++ m.before.reverse ++ before
      if done then (m.before ++ put ++ m.after, true)
      else
        match m.text, m.after with
        | [], []        => (m.before ++ put, replaces)
        | [], c :: rest =>
          let (more, any) := substituteFrom r s fuel count' false (c :: passed) rest
          (m.before ++ put ++ c :: more, replaces || any)
        | _, after =>
          let (more, any) := substituteFrom r s fuel count' true passed after
          (m.before ++ put ++ more, replaces || any)

/-! ### Commands -/

/-- What follows a command. -/
inductive Next where
  | go (index : Nat)
  /-- The end of the script: the space is printed. -/
  | finish
  /-- The next line without printing the space. -/
  | drop
  /-- The script again on what is left of the space. -/
  | again
  | quit (prints : Bool) (status : Nat)
  /-- There was no expression that could have been used last. -/
  | fail

/-- Where the end of the block is that begins at a command. -/
def blockEnd (commands : Array Command) : (fuel : Nat) → (deep index : Nat) → Nat
  | 0, _, index => index
  | fuel + 1, deep, index =>
    match (commands[index]?).map Command.action with
    | none           => index
    | some .block    => blockEnd commands fuel (deep + 1) (index + 1)
    | some .blockEnd => if deep = 0 then index + 1 else blockEnd commands fuel (deep - 1) (index + 1)
    | some _         => blockEnd commands fuel deep (index + 1)

/-- Where a label is. -/
def labelIndex (commands : Array Command) (name : String) : Nat :=
  if name = "" then commands.size
  else
    (commands.toList.findIdx? fun c => match c.action with | .label l => l = name | _ => false).getD
      commands.size

/-- A character as it is shown without doubt. -/
def shownPlainly (c : Char) : String :=
  match c with
  | '\\'   => "\\\\"
  | '\x07' => "\\a"
  | '\x08' => "\\b"
  | '\x0c' => "\\f"
  | '\n'   => "\\n"
  | '\r'   => "\\r"
  | '\t'   => "\\t"
  | '\x0b' => "\\v"
  | c =>
    if ' ' ≤ c && c ≤ '~' then String.ofList [c]
    else
      let digits := Nat.toDigits 8 c.toNat
      "\\" ++ String.ofList (List.replicate (3 - digits.length) '0' ++ digits)

/-- A text as it is shown without doubt, in lines of some width; none for a width of zero. -/
def listing (width : Nat) (text : String) : String :=
  let shown := text.toList.map shownPlainly
  let step (state : List String × Nat) (s : String) : List String × Nat :=
    if width != 0 && width - 1 < state.2 + s.length then (s :: "\\\n" :: state.1, s.length)
    else (s :: state.1, state.2 + s.length)
  String.join (("$\n" :: (shown.foldl step ([], 0)).1).reverse)

/-- What a command of the shell prints. -/
def shellOutput (r : Runner) (s : Settings) (command : String) : Edits String := do
  writeOut s
  writeFiles
  return (← Act.outputOf r ["/bin/sh", "-c", command]).1

/-- A text without the end of its last line. -/
def withoutLastEnd (ending : Char) (text : String) : String :=
  if text.endsWith (String.ofList [ending]) then String.ofList text.toList.dropLast else text

/-- Runs a substitution. Answers nothing where there is no expression. -/
def substitute (r : Runner) (s : Settings) (sub : Substitution) : Edits Bool := do
  match sub.regex.or (← get).regex with
  | none => return false
  | some sought =>
    modify ({ · with regex := some sought })
    let cs := (← get).space.toList
    let (text, any) := substituteFrom sought sub (cs.length + 2) 0 false [] cs
    if !any then return true
    modify ({ · with space := String.ofList text, replaced := true })
    if sub.prints && sub.early && sub.runs then printSpace s
    if sub.runs then
      let out ← shellOutput r s (← get).space
      modify ({ · with space := withoutLastEnd s.ending out })
    if sub.prints && !(sub.early && sub.runs) then printSpace s
    match sub.file with
    | some name => addToFile s name (← get).space
    | none      => pure ()
    return true

/-- The next line of a file that is read line by line. -/
def nextLineOf (s : Settings) (name : String) : Edits (Option Line) := do
  let lines ← match (← get).readers.lookup name with
    | some lines => pure lines
    | none => do
      match ← Act.readFile name with
      | .ok text => pure (linesOfInput s.ending text)
      | .error _ => pure []
  modify fun st => { st with readers := (name, lines.drop 1) :: st.readers.filter (·.1 != name) }
  return lines.head?

/-- Runs a command whose lines are selected. -/
def act (r : Runner) (s : Settings) (index : Nat) (a : Action) : Edits Next := do
  let go : Edits Next := return .go (index + 1)
  let st ← get
  let firstLine := (st.space.splitOn (String.ofList [s.ending])).headD ""
  match a with
  | .block | .blockEnd | .label _ => go
  | .text 'a' t =>
    modify fun st => { st with queue := .text t :: st.queue }
    go
  | .text 'i' t =>
    emit s t
    go
  | .text _ t =>
    if !(← isOpen index) then emit s t
    return .drop
  | .jump letter name =>
    let jumps := match letter with
      | 'b' => true
      | 't' => st.replaced
      | _   => !st.replaced
    if letter != 'b' then modify ({ · with replaced := false })
    return .go (if jumps then labelIndex s.commands name else index + 1)
  | .quit prints status => return .quit prints status
  | .list width =>
    emit s (listing (width.getD s.width) st.space)
    go
  | .run (some command) =>
    let out ← shellOutput r s command
    if out != "" then emit s out
    go
  | .run none =>
    let out ← shellOutput r s st.space
    modify ({ · with space := withoutLastEnd s.ending out })
    go
  | .file 'r' name =>
    modify fun st => { st with queue := .file name :: st.queue }
    go
  | .file 'R' name =>
    match ← nextLineOf s name with
    | some (line, ended) =>
      let text := if ended then line.push s.ending else line
      modify fun st => { st with queue := .text text :: st.queue }
    | none => pure ()
    go
  | .file 'W' name =>
    addToFile s name firstLine
    go
  | .file _ name =>
    addToFile s name st.space
    go
  | .transliterate pairs =>
    modify ({ · with space := String.ofList (st.space.toList.map fun c => (pairs.lookup c).getD c) })
    go
  | .substitute sub => if ← substitute r s sub then go else return .fail
  | .plain letter =>
    match letter with
    | 'p' =>
      printSpace s
      go
    | 'P' =>
      emit s (firstLine.push s.ending)
      go
    | '=' =>
      emit s (toString st.number ++ "\n")
      go
    | 'F' =>
      emit s (st.name.getD "-" ++ "\n")
      go
    | 'd' => return .drop
    | 'D' =>
      if st.space.contains s.ending then
        modify ({ · with space := String.ofList (st.space.toList.drop (firstLine.length + 1)) })
        return .again
      else return .drop
    | 'g' =>
      modify ({ · with space := st.held })
      go
    | 'G' =>
      modify ({ · with space := st.space.push s.ending ++ st.held })
      go
    | 'h' =>
      modify ({ · with held := st.space })
      go
    | 'H' =>
      modify ({ · with held := st.held.push s.ending ++ st.space })
      go
    | 'x' =>
      modify ({ · with space := st.held, held := st.space })
      go
    | 'z' =>
      modify ({ · with space := "" })
      go
    | 'n' =>
      if ← isLast s then return .quit true 0
      if !s.quiet then printSpace s
      if ← readNext s false then go else return .quit false 0
    | 'N' =>
      if ← isLast s then return .quit true 0
      if ← readNext s true then go else return .quit true 0
    | _ => go

/-- Whether a command needs an expression that was used last, and there is none. -/
def lacksRegex (c : Command) (st : State) : Bool :=
  let lacks (a : Address) : Bool := match a with
    | .regex none => st.regex.isNone
    | _           => false
  match c.selection with
  | .one a => lacks a
  | .range a (.address b) => lacks a || (lacks b && match a with | .regex _ => false | _ => true)
  | .range a _ => lacks a
  | .all => false

/-- Runs commands on the space from one on. -/
def runCommands (r : Runner) (s : Settings) : (fuel : Nat) → (index : Nat) → Edits Next
  | 0, _ => return .finish
  | fuel + 1, index => do
    match s.commands[index]? with
    | none => return .finish
    | some c =>
      if lacksRegex c (← get) then return .fail
      let selected ← selects s index c.selection
      if selected = c.negated then
        let index := match c.action with
          | .block => blockEnd s.commands s.commands.size 0 (index + 1)
          | _      => index + 1
        runCommands r s fuel index
      else
        match ← act r s index c.action with
        | .go next => runCommands r s fuel next
        | ended    => return ended

/-- The most commands that are run for a line. -/
def greatestRun : Nat := 1000000

/-- Runs a script for each line. Answers the status that it ends with. -/
def runLines (r : Runner) (s : Settings) : (fuel : Nat) → (again : Bool) → Edits Nat
  | 0, _ => return 0
  | fuel + 1, again => do
    let isThere ← if again then pure true else readNext s false
    if !isThere then return 0
    let printed : Edits Unit := do
      if !s.quiet then printSpace s
      flushQueue s
    match ← runCommands r s greatestRun 0 with
    | .finish | .go _ =>
      printed
      runLines r s fuel false
    | .drop =>
      flushQueue s
      runLines r s fuel false
    | .again =>
      flushQueue s
      runLines r s fuel true
    | .quit true n =>
      printed
      return n
    | .quit _ n => return n
    | .fail =>
      Act.complain "sed: -e expression #1, char 0: no previous regular expression"
      return 1

/-- The most lines that are edited. -/
def greatestCount : Nat := 100000000

/-- Runs a script for each line of inputs, and answers a status. -/
def run (r : Runner) (s : Settings) (names : List String) : Act Nat := do
  let edits : Edits Nat := do
    let n ← runLines r s greatestCount false
    if (← get).name.isSome then closeInput s
    writeOut s
    writeFiles
    let status := (← get).status
    return if status = 4 then 4 else if n != 0 then n else status
  return (← edits.run (.first names)).1

end BoardConsole.Shell.Utility.Edit
