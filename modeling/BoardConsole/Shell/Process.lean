import BoardConsole.Shell.Grammar
import BoardConsole.Volume

/-!
# Shell — Processes

What a shell is while it runs. Each process has variables, functions, options and descriptors of its
own; files, open descriptions, pipes and the clock are one for all of them. A process started by
another works on a copy of what that one has, so a subshell is a run whose process is put away at
its end. Everything acts through `Act`, which keeps the state also where a command is broken off.
-/

namespace BoardConsole.Shell

/-! ### What a process has of its own -/

/-- A variable. One without a value has only been declared. -/
structure Variable where
  value    : Option String
  exported : Bool
  readOnly : Bool
deriving DecidableEq, Repr

/-- A process of a shell. -/
structure Process where
  /-- The number of the process. -/
  number         : Nat
  /-- The number that the shell shows as its own. -/
  shell          : Nat
  /-- The number of the process that started the shell. -/
  starter        : Nat
  /-- The name that messages begin with. -/
  name           : String
  arguments      : List String
  store          : List (String × Variable)
  functions      : List (String × Command)
  aliases        : List (String × String)
  /-- The letters of the options that are set. -/
  options        : List Char
  status         : Nat
  /-- The status of the last command whose output was taken. -/
  taken          : Nat
  /-- The last process started in the background. -/
  lastBackground : Option Nat
  /-- The processes started in the background that were not waited for. -/
  jobs           : List Nat
  /-- What is run at a signal; nothing to run means that the signal is ignored. -/
  traps          : List (Nat × String)
  /-- The descriptors that are open, and their descriptions. -/
  descriptors    : List (Nat × Nat)
  directory      : Path
  /-- The name of the working directory. -/
  directoryName  : String
  mask           : Nat
  /-- The loops around what is run. -/
  loops          : Nat
  /-- The functions around what is run, each with the variables that it hides. -/
  calls          : List (List (String × Option Variable))
  /-- The number of the argument whose options are read next. -/
  optionIndex    : Nat
  /-- The letters that have been read of the argument before that one, with its hyphen; zero where
  it is done. -/
  lettersRead    : Nat
  line           : Nat
  /-- The builtin that is run. -/
  builtin        : Option String
  /-- What the builtin has printed, last first; it is written at its end. -/
  printed        : List String
  /-- Whether something could not be printed. -/
  unprinted      : Bool
  /-- The status from before the trap that is run. -/
  interrupted    : Option Nat

/-! ### What is one for all processes -/

/-- What an open description leads to. -/
inductive Device where
  | null
  /-- Takes nothing. -/
  | full
  /-- Never ends, and takes all. -/
  | zero
  /-- The standard output of all. -/
  | outside
  | file (path : Path)
  | directory
  | pipe (number : Nat)
deriving DecidableEq, Repr

/-- An open description. -/
structure Description where
  device  : Device
  offset  : Nat
  appends : Bool
  reads   : Bool
  writes  : Bool
deriving DecidableEq, Repr

/-- A pipe. What it holds is a beginning, and what was added to that, last first. -/
structure Pipe where
  start   : List Char
  added   : List String
  /-- How much it holds. -/
  size    : Nat
  /-- The most that is written to it, if there is a bound. -/
  limit   : Option Nat
  /-- How much has been written to it. -/
  written : Nat
  /-- Whether a writer was stopped at the bound. -/
  cut     : Bool
  /-- Whether a reader came to the end of what had been cut off. -/
  missed  : Bool
  /-- Whether it has a name, so that writers may come later. -/
  named   : Bool

/-- A pipe that holds a text and is not written to. -/
def Pipe.ofText (text : List Char) : Pipe := ⟨text, [], text.length, none, 0, false, false, false⟩

/-- All that is in a pipe. -/
def Pipe.text (p : Pipe) : List Char :=
  match p.added with
  | []    => p.start
  | added => p.start ++ (String.join added.reverse).toList

/-- A pipe with a text added to it, up to its bound. -/
def Pipe.add (p : Pipe) (text : String) : Pipe :=
  let length := text.length
  match p.limit with
  | none => { p with added := text :: p.added, size := p.size + length, written := p.written + length }
  | some limit =>
    if p.written + length ≤ limit then
      { p with added := text :: p.added, size := p.size + length, written := p.written + length }
    else
      let room := limit - p.written
      let kept := String.ofList (text.toList.take room)
      { p with added := kept :: p.added, size := p.size + room, written := limit, cut := true }

/-- A pipe that holds what is left of it after some characters. -/
def Pipe.leave (p : Pipe) (rest : List Char) (taken : Nat) : Pipe :=
  { p with start := rest, added := [], size := p.size - taken }

/-- Why a program does not run. -/
inductive Unrun where
  | missing
  | denied
deriving DecidableEq, Repr

/-- The words for it. -/
def Unrun.message : Unrun → String
  | missing => "not found"
  | denied  => "Permission denied"

/-- The status that stands for it. -/
def Unrun.status : Unrun → Nat
  | missing => 127
  | denied  => 126

/-- A process in the background that has not run yet. -/
structure Deferred where
  process : Process
  command : Command
  /-- The time when it was started. -/
  start   : Nat

/-- What was added to a file and is not in the volume yet: the size of the file with it, and the
parts, last first. -/
structure Unsaved where
  path  : Path
  size  : Nat
  parts : List String

/-- All processes share a world. -/
structure World where
  /-- The files, without what is `unsaved`. -/
  volume       : Volume
  unsaved      : Option Unsaved
  descriptions : Array Description
  pipes        : Array Pipe
  /-- The pipes that have names. -/
  named        : List (Path × Nat)
  /-- How much is taken from what has no end, and written to a pipe at most. -/
  reach        : Nat
  documents    : Array Word
  nextNumber   : Nat
  /-- The processes that run or wait. -/
  alive        : List Nat
  /-- The signals on their way, each to a process. -/
  signals      : List (Nat × Nat)
  deferred     : List Deferred
  /-- The processes that ended in the background, and their statuses. -/
  ended        : List (Nat × Nat)
  /-- Why the last program that was started did not run. -/
  unrun        : Option Unrun
  /-- Nanoseconds since the beginning. -/
  time         : Nat
  output       : Array UInt8

/-- A world and the process that acts in it. -/
structure State where
  world   : World
  process : Process

/-- Why a command is broken off. -/
inductive Stop where
  /-- Leaves loops. -/
  | broken (loops : Nat)
  /-- Leaves loops but the last, and goes on with that. -/
  | continued (loops : Nat)
  /-- Leaves a function or a script. -/
  | returned
  /-- Ends the shell. -/
  | exited
  /-- A fault, which ends the shell where nothing catches it. -/
  | failed
  /-- A signal ended the process. -/
  | killed (signal : Nat)
  /-- There is nothing to read until a process of the background has run. -/
  | starved
deriving DecidableEq, Repr

/-- What acts in a world. -/
abbrev Act := EStateM Stop State

namespace Act

/-! ### Access -/

def world : Act World := return (← get).world

def process : Act Process := return (← get).process

def modifyWorld (f : World → World) : Act Unit :=
  modify fun s => { s with world := f s.world }

def modifyProcess (f : Process → Process) : Act Unit :=
  modify fun s => { s with process := f s.process }

/-- Puts what was added to a file into the volume. -/
def save : Act Unit := do
  match (← get).world.unsaved with
  | none   => return
  | some u =>
    modifyWorld fun w =>
      let old := (w.volume.contents? u.path).getD []
      { w with
        unsaved := none
        volume  := w.volume.put u.path (old ++ toBytes (String.join u.parts.reverse)) }

def volume : Act Volume := do
  save
  return (← get).world.volume

def setVolume (volume : Volume) : Act Unit := modifyWorld ({ · with volume })

def status : Act Nat := return (← get).process.status

def setStatus (status : Nat) : Act Unit := modifyProcess ({ · with status })

/-- Whether an option is set. -/
def isSet (option : Char) : Act Bool := return (← process).options.contains option

/-- Acts, then tidies up, however the first ended. -/
def ensuring {α : Type} (act : Act α) (tidy : Act Unit) : Act α := do
  try
    let a ← act
    tidy
    return a
  catch stop =>
    tidy
    throw stop

/-! ### Variables -/

def variableOf? (name : String) : Act (Option Variable) :=
  return (← process).store.lookup name

def value? (name : String) : Act (Option String) :=
  return (← variableOf? name).bind (·.value)

/-- The value of a variable, or nothing. -/
def valueOf (name : String) : Act String :=
  return (← value? name).getD ""

/-- Puts a variable, or takes it away. -/
def putVariable (name : String) (v : Option Variable) : Act Unit :=
  modifyProcess fun p =>
    let rest := p.store.filter (·.1 != name)
    { p with store := match v with | some v => (name, v) :: rest | none => rest }

/-! ### What is at a path -/

/-- What is at a path. -/
inductive Kind where
  | directory
  | file
  | link
  | device
  | pipe
deriving DecidableEq, Repr

/-- The devices that descriptors can be led to. -/
def deviceOf? : Path → Option Device
  | ["/", "dev", "null"] => some .null
  | ["/", "dev", "full"] => some .full
  | ["/", "dev", "zero"] => some .zero
  | _                    => none

/-- The programs that are there. -/
def programs : List String :=
  ["[", "arch", "awk", "b2sum", "base32", "base64", "basename", "basenc", "bash", "cat", "chgrp",
   "chmod", "chown", "cksum", "cmp", "comm", "cp", "csplit", "cut", "dash", "date", "dd", "diff",
   "dir", "dirname", "du", "echo", "egrep", "env", "expand", "expr", "factor", "false", "fgrep",
   "find", "fmt", "fold", "getopt", "grep", "groups", "gunzip", "gzip", "head", "hostname", "id",
   "install", "join", "kill", "link", "ln", "logname", "ls", "mawk", "md5sum", "mkdir", "mkfifo",
   "mknod", "mktemp", "mv", "nawk", "nice", "nl", "nohup", "nproc", "numfmt", "od", "paste",
   "pathchk", "pr", "printenv", "printf", "pwd", "readlink", "realpath", "rev", "rm", "rmdir",
   "sed", "seq", "setsid", "sh", "sha1sum", "sha224sum", "sha256sum", "sha384sum", "sha512sum",
   "shuf", "sleep", "sort", "split", "stat", "stdbuf", "sum", "sync", "tac", "tail", "tee",
   "test", "timeout", "touch", "tr", "true", "truncate", "tsort", "tty", "uname", "unexpand",
   "uniq", "unlink", "vdir", "wc", "which", "whoami", "xargs", "yes", "zcat"]

/-- The program at a path. -/
def programAt? : Path → Option String
  | ["/", "bin", name] | ["/", "usr", "bin", name] => if programs.contains name then some name else none
  | _ => none

/-- The files of the system. -/
def systemFile? : Path → Option String
  | ["/", "etc", "passwd"]   => some "root:x:0:0:root:/root:/bin/bash\n"
  | ["/", "etc", "group"]    => some "root:x:0:\n"
  | ["/", "etc", "hosts"]    => some "127.0.0.1\tlocalhost\n"
  | ["/", "etc", "hostname"] => some "board\n"
  | ["/", "etc", "shells"]   => some "/bin/sh\n"
  | _                        => none

/-- What is at a path of a volume. -/
def kindAt? (v : Volume) (path : Path) : Option Kind :=
  if (v.linkTarget? path).isSome then some .link
  else if (v.contents? path).isSome then some .file
  else if v.isDirectory path then some .directory
  else if v.pipes.contains path then some .pipe
  else if (deviceOf? path).isSome then some .device
  else if (programAt? path).isSome || (systemFile? path).isSome then some .file
  else none

/-- The contents of the file at a path of a volume. -/
def contentsAt? (v : Volume) (path : Path) : Option (List UInt8) :=
  match v.contents? path with
  | some bytes => some bytes
  | none =>
    match systemFile? path, programAt? path with
    | some text, _    => some (toBytes text)
    | none, some name => some (toBytes ("\x7fELF" ++ name))
    | none, none      => none

/-- The permissions at a path of a volume. -/
def modeAt (v : Volume) (path : Path) : Nat :=
  match v.modes.lookup path, kindAt? v path with
  | some mode, _          => mode
  | none, some .directory => 0o755
  | none, some .link      => 0o777
  | none, some .device    => 0o666
  | none, _               => if (programAt? path).isSome then 0o755 else 0o644

/-- The time at the beginning of every run, in nanoseconds from the beginning of 1970. -/
def firstMoment : Int := 1767225600 * 1000000000

/-- The time when what is at a path was changed. Of files whose time nobody has set, those that were
changed later have a later time. -/
def changedAt (v : Volume) (path : Path) : Int :=
  match v.times.lookup path with
  | some time => time
  | none =>
    match v.files.findIdx? (·.1 = path) with
    | some n => firstMoment + n + 1
    | none   => firstMoment

/-- Whether anybody may run a file with these permissions. -/
def mayRun (mode : Nat) : Bool := mode &&& 0o111 != 0

/-- How many names there are for what is at a path: a directory has one in each directory in it. -/
def linksTo (v : Volume) (path : Path) : Nat :=
  if v.isDirectory path then
    2 + (v.directories.filter fun p => v.parent p = path).length
  else (v.namesOf path).length

/-- The number of what is at a path. -/
def numberAt (v : Volume) (path : Path) : Nat :=
  match v.numbers.lookup path with
  | some n => n + 100
  | none   => if path = ["/"] then 2 else if path.isEmpty || path = v.base then 100 else path.length + 10

/-! ### Reading and writing -/

/-- The signal of writing to a pipe that nobody reads. -/
def brokenPipe : Nat := 13

/-- The description of a descriptor. -/
def description? (descriptor : Nat) : Act (Option (Nat × Description)) := do
  match (← process).descriptors.lookup descriptor with
  | none   => return none
  | some k => return (← world).descriptions[k]?.map (k, ·)

/-- Changes a description. -/
def setDescription (k : Nat) (d : Description) : Act Unit :=
  modifyWorld fun w => { w with descriptions := w.descriptions.setIfInBounds k d }

/-- Bytes of a file with others put at an offset. -/
def splice (old : List UInt8) (offset : Nat) (new : List UInt8) : List UInt8 :=
  let gap := List.replicate (offset - old.length) 0
  old.take offset ++ gap ++ new ++ old.drop (offset + new.length)

/-- What stands in the way of writing or reading. -/
inductive TransferFault where
  | badDescriptor
  | noSpace
  | isADirectory
  | brokenPipe
deriving DecidableEq, Repr

/-- What the system says of a fault. -/
def TransferFault.reason : TransferFault → String
  | badDescriptor => "Bad file descriptor"
  | noSpace       => "No space left on device"
  | isADirectory  => "Is a directory"
  | brokenPipe    => "Broken pipe"

/-- Writes to the file of a description. What goes to its end is put aside for the time being. -/
def writeFileAt (k : Nat) (d : Description) (path : Path) (text : String) :
    Act (Option TransferFault) := do
  let length := text.length
  let add (size : Nat) (parts : List String) : Act Unit := do
    modifyWorld fun w => { w with unsaved := some ⟨path, size + length, text :: parts⟩ }
    setDescription k { d with offset := size + length }
  match (← get).world.unsaved with
  | some ⟨there, size, parts⟩ =>
    if there = path && (d.appends || d.offset = size) then
      add size parts
      return none
  | none => pure ()
  match (← volume).contents? path with
  | none     => return none
  | some old =>
    let size := old.length
    if (d.appends || d.offset = size) && ((← volume).namesOf path).length = 1 then add size []
    else
      let offset := if d.appends then size else d.offset
      modifyWorld fun w => { w with volume := w.volume.put path (splice old offset (toBytes text)) }
      setDescription k { d with offset := offset + length }
    return none

/-- Writes to a descriptor. -/
def write (descriptor : Nat) (text : String) : Act (Option TransferFault) := do
  if text.isEmpty then return none
  match ← description? descriptor with
  | none        => return some .badDescriptor
  | some (k, d) =>
    if !d.writes then return some .badDescriptor
    match d.device with
    | .null | .zero => return none
    | .full         => return some .noSpace
    | .directory    => return some .isADirectory
    | .outside =>
      modifyWorld fun w => { w with output := w.output ++ toBytes text }
      return none
    | .pipe n =>
      modifyWorld fun w => { w with pipes := w.pipes.modify n (·.add text) }
      if (← get).world.pipes[n]?.any (·.cut) then
        if (← process).traps.lookup brokenPipe = some "" then return some .brokenPipe
        else throw (.killed brokenPipe)
      return none
    | .file path => writeFileAt k d path text

/-- Writes to the standard output, and keeps in mind where that fails. -/
def emit (text : String) : Act Unit := do
  if (← write 1 text).isSome then modifyProcess ({ · with unprinted := true })

/-- Prints to the standard output. What a builtin prints is put aside until its end. -/
def print (text : String) : Act Unit := do
  if (← process).builtin.isSome then
    modifyProcess fun p => { p with printed := text :: p.printed }
  else emit text

/-- Writes what was put aside. -/
def flushPrinted : Act Unit := do
  let parts := (← process).printed
  if !parts.isEmpty then
    modifyProcess ({ · with printed := [] })
    emit (String.join parts.reverse)

/-- Prints a line. -/
def printLine (line : String) : Act Unit := print (line ++ "\n")

/-- Prints a line to the standard error. -/
def complain (line : String) : Act Unit := do
  let _ ← write 2 (line ++ "\n")

/-- Changes a pipe. -/
def modifyPipe (n : Nat) (f : Pipe → Pipe) : Act Unit :=
  modifyWorld fun w => { w with pipes := w.pipes.modify n f }

/-- What is in a pipe. Nothing in one that writers may still come to has to be waited for. -/
def pipeText (n : Nat) : Act (List Char) := do
  match (← world).pipes[n]? with
  | none   => return []
  | some p =>
    if p.named && p.size = 0 && !(← world).deferred.isEmpty then throw .starved
    return p.text

/-- Leaves a part of what was in a pipe, its end having been reached or not. -/
def leaveInPipe (n : Nat) (rest : List Char) (taken : Nat) (ended : Bool) : Act Unit :=
  modifyPipe n fun p => { p.leave rest taken with missed := p.missed || (ended && p.cut) }

/-- Takes all that is in a pipe. -/
def emptyPipe (n : Nat) : Act (List Char) := do
  let held ← pipeText n
  modifyPipe n fun p => { p with start := [], added := [], size := 0, missed := p.missed || p.cut }
  return held

/-- What can be read from a descriptor, up to its end; nothing where it cannot be read. -/
def readAll? (descriptor : Nat) : Act (Except TransferFault String) := do
  match ← description? descriptor with
  | none        => return .error .badDescriptor
  | some (k, d) =>
    if !d.reads then return .error .badDescriptor
    match d.device with
    | .null | .full | .outside => return .ok ""
    | .zero                    => return .ok (repeated ((← world).reach + 1) '\x00')
    | .directory               => return .error .isADirectory
    | .pipe n =>
      return .ok (String.ofList (← emptyPipe n))
    | .file path =>
      let bytes := (contentsAt? (← volume) path).getD []
      setDescription k { d with offset := max d.offset bytes.length }
      return .ok (ofBytes (bytes.drop d.offset))

/-- What can be read from a descriptor, which is left there. -/
def peekAll? (descriptor : Nat) : Act (Except TransferFault String) := do
  let before ← get
  let found ← readAll? descriptor
  set before
  return found

/-- What is read at a time. -/
def blockSize : Nat := 8192

/-- What can be read from a descriptor, of which only a part is taken: `need` answers how much of the
text is needed, from a file or not, and nothing where it is too short. A file is read no further than
that, and a pipe by blocks. -/
def readNeeded (descriptor : Nat) (least : Nat) (need : (isFile : Bool) → List Char → Option Nat) :
    Act (Except TransferFault String) := do
  match ← description? descriptor with
  | some (_, ⟨.zero, _, _, true, _⟩) => return .ok (repeated (max least ((← world).reach + 1)) '\x00')
  | some (_, ⟨.pipe n, _, _, true, _⟩) =>
    let text ← pipeText n
    match need false text with
    | none =>
      let _ ← emptyPipe n
      return .ok (String.ofList text)
    | some k =>
      let taken := (k + blockSize - 1) / blockSize * blockSize
      leaveInPipe n (text.drop taken) taken false
      return .ok (String.ofList text)
  | some (k, ⟨.file path, offset, appends, true, writes⟩) =>
    let bytes := (contentsAt? (← volume) path).getD []
    let text := (bytes.drop offset).map fun b => Char.ofNat b.toNat
    let taken := (need true text).getD text.length
    setDescription k ⟨.file path, offset + taken, appends, true, writes⟩
    return .ok (String.ofList text)
  | _ => readAll? descriptor

/-- Takes a part of what can be read from a descriptor, or all of it where the end was reached. -/
def takePart (descriptor count : Nat) (ended : Bool) : Act Unit := do
  if ended then
    let _ ← readAll? descriptor
  else
    let _ ← readNeeded descriptor count fun _ _ => some count

/-- Reads a line from a descriptor: its text and whether its end was there. -/
def readLine? (descriptor : Nat) : Act (Except TransferFault (String × Bool)) := do
  let take (text : List Char) : List Char × List Char × Bool :=
    let line := text.takeWhile (· != '\n')
    match text.drop line.length with
    | []        => (line, [], false)
    | _ :: rest => (line, rest, true)
  match ← description? descriptor with
  | some (k, ⟨.file path, offset, appends, true, writes⟩) =>
    let bytes := (contentsAt? (← volume) path).getD []
    let text := (bytes.drop offset).map fun b => Char.ofNat b.toNat
    let (line, _, ended) := take text
    let read := line.length + (if ended then 1 else 0)
    setDescription k ⟨.file path, offset + read, appends, true, writes⟩
    return .ok (String.ofList line, ended)
  | some (_, ⟨.pipe n, _, _, true, _⟩) =>
    let (line, rest, ended) := take (← pipeText n)
    leaveInPipe n rest (line.length + (if ended then 1 else 0)) !ended
    return .ok (String.ofList line, ended)
  | _ => return (← readAll? descriptor).map (·, false)

/-! ### Messages -/

/-- What a message of the shell begins with. -/
def head : Act String := do
  let p ← process
  let place := p.name ++ ": " ++ toString p.line ++ ": "
  return match p.builtin with
    | some name => place ++ name ++ ": "
    | none      => place

/-- Writes a message of the shell. -/
def warn (message : String) : Act Unit := do
  complain ((← head) ++ message)

/-- The status of a fault. -/
def faulty : Nat := 2

/-- A fault. -/
def fail {α : Type} (message : String) : Act α := do
  warn message
  setStatus faulty
  throw .failed

/-- Assigns a variable. -/
def assign (name value : String) : Act Unit := do
  let old ← variableOf? name
  if old.any (·.readOnly) then fail (name ++ ": is read only")
  let exported := old.any (·.exported) || (← isSet 'a')
  putVariable name (some ⟨some value, exported, false⟩)
  if name = "OPTIND" then
    modifyProcess ({ · with optionIndex := max 1 (value.toNat?.getD 1), lettersRead := 0 })

/-! ### Descriptions and pipes -/

/-- Opens a description. -/
def addDescription (d : Description) : Act Nat :=
  modifyGet fun s =>
    (s.world.descriptions.size,
      { s with world := { s.world with descriptions := s.world.descriptions.push d } })

/-- Leads a descriptor to a description. -/
def lead (descriptor k : Nat) : Act Unit :=
  modifyProcess fun p =>
    { p with descriptors := (descriptor, k) :: p.descriptors.filter (·.1 != descriptor) }

/-- Closes a descriptor. -/
def close (descriptor : Nat) : Act Unit :=
  modifyProcess fun p => { p with descriptors := p.descriptors.filter (·.1 != descriptor) }

/-- A new pipe, with the description of its end to read and of that to write. -/
def addPipe (pipe : Pipe) : Act (Nat × Nat) := do
  let n := (← world).pipes.size
  modifyWorld fun w => { w with pipes := w.pipes.push pipe }
  return (← addDescription ⟨.pipe n, 0, false, true, false⟩,
    ← addDescription ⟨.pipe n, 0, false, false, true⟩)

/-- The pipe of a name. -/
def namedPipe (path : Path) : Act Nat := do
  match (← world).named.lookup path with
  | some n => return n
  | none =>
    let n := (← world).pipes.size
    modifyWorld fun w =>
      { w with
        pipes := w.pipes.push { Pipe.ofText [] with named := true }
        named := (path, n) :: w.named }
    return n

/-! ### Files -/

/-- The path that a name leads to. -/
def resolve (follows : Bool) (name : String) : Act (Except PathFault Path) := do
  return (← volume).resolve follows (← process).directory (toWorld name)

/-- What is where a name leads. -/
def kind? (follows : Bool) (name : String) : Act (Option (Kind × Path)) := do
  match ← resolve follows name with
  | .error _ => return none
  | .ok path => return (kindAt? (← volume) path).map (·, path)

/-- Makes a file of a path with the permissions that the mask leaves of some. -/
def createFile (path : Path) (bytes : List UInt8) (mode : Nat) : Act Unit := do
  let v := (← volume).put path bytes
  let kept := mode &&& (0o777 ^^^ (← process).mask)
  setVolume (if kept = 0o644 then v else v.setMode path kept)

/-- Where a file is kept that has no name any more, but is open. -/
def keptPath (n : Nat) : Path := ["/", "\x00", toString n]

/-- Leads open descriptions of files to other paths. -/
def redirectOpen (f : Path → Path) : Act Unit :=
  modifyWorld fun w =>
    { w with
      named        := w.named.map fun (p, n) => (f p, n)
      descriptions := w.descriptions.map fun d =>
        match d.device with
        | .file p => { d with device := .file (f p) }
        | _       => d }

/-- Takes away a file, a link or an empty directory. A file that is open stays as it is for those who
have it open. -/
def deletePath (path : Path) : Act Unit := do
  let v ← volume
  if (← world).descriptions.any (·.device = .file path) && (v.contents? path).isSome then
    match (v.namesOf path).find? (· != path) with
    | some other =>
      redirectOpen fun p => if p = path then other else p
      setVolume (v.delete path)
    | none =>
      let kept := keptPath v.files.length
      redirectOpen fun p => if p = path then kept else p
      setVolume (v.move path kept)
  else
    modifyWorld fun w => { w with named := w.named.filter (·.1 != path) }
    setVolume (v.delete path)

/-- Moves all that lies at or below a path to another one, in the place of what is there. -/
def movePath (path newPath : Path) : Act Unit := do
  if (kindAt? (← volume) newPath).isSome then deletePath newPath
  setVolume ((← volume).move path newPath)
  redirectOpen fun p => if path.isPrefixOf p then newPath ++ p.drop path.length else p

/-- The descriptor that a name of a file stands for. -/
def descriptorNamed? (name : String) : Option Nat :=
  let after? (start : String) : Option Nat :=
    if name.startsWith start then (String.ofList (name.toList.drop start.length)).toNat? else none
  if name = "/dev/stdin" then some 0
  else if name = "/dev/stdout" then some 1
  else if name = "/dev/stderr" then some 2
  else (after? "/dev/fd/").or (after? "/proc/self/fd/")

/-- The file behind a name that stands for a descriptor, as another name. -/
def fileNamed? (name : String) : Act (Option String) := do
  match descriptorNamed? name with
  | none   => return none
  | some n =>
    match ← description? n with
    | some (_, ⟨.file path, _, _, _, _⟩) =>
      return some (ofWorld (Volume.nameOf ((← volume).absolute path)))
    | _ => return none

/-- Opens a file, and answers its description. -/
def openAt (path : Path) (reads writes appends : Bool) : Act Nat := do
  match kindAt? (← volume) path with
  | some .pipe => addDescription ⟨.pipe (← namedPipe path), 0, false, reads, writes⟩
  | _          => addDescription ⟨(deviceOf? path).getD (.file path), 0, appends, reads, writes⟩

/-- Acts with a descriptor led to a description for the time being. -/
def withDescriptor {α : Type} (descriptor k : Nat) (act : Act α) : Act α := do
  let outer := (← process).descriptors
  lead descriptor k
  ensuring act (modifyProcess ({ · with descriptors := outer }))

/-- Reads from a file of a name, with what is to be done with the descriptor of the file. -/
def readingFile {α : Type} (name : String) (act : (descriptor : Nat) → Act (Except TransferFault α)) :
    Act (Except String α) := do
  match ← fileNamed? name, descriptorNamed? name with
  | none, some n => return (← act n).mapError (·.reason)
  | other, _ =>
    match ← resolve true (other.getD name) with
    | .error fault => return .error fault.reason
    | .ok path =>
      match kindAt? (← volume) path with
      | none            => return .error PathFault.missing.reason
      | some .directory => return .error PathFault.isADirectory.reason
      | some _ =>
        let k ← openAt path true false false
        return (← withDescriptor 0 k (act 0)).mapError (·.reason)

/-- The contents of the file that a name leads to. -/
def readFile (name : String) : Act (Except String String) := readingFile name readAll?

/-- Writes the file that a name leads to. -/
def writeFile (name text : String) (appends : Bool) : Act (Except String Unit) := do
  match ← fileNamed? name, descriptorNamed? name with
  | none, some n =>
    return match ← write n text with
      | none       => .ok ()
      | some fault => .error fault.reason
  | other, _ =>
    match ← resolve true (other.getD name) with
    | .error fault => return .error fault.reason
    | .ok path =>
      let v ← volume
      match kindAt? v path with
      | some .directory => return .error PathFault.isADirectory.reason
      | some .device =>
        let refused := deviceOf? path = some .full && text != ""
        return if refused then .error TransferFault.noSpace.reason else .ok ()
      | some .pipe =>
        let n ← namedPipe path
        modifyPipe n (·.add text)
        return .ok ()
      | some _ =>
        let old := (v.contents? path).getD []
        setVolume (v.put path ((if appends then old else []) ++ toBytes text))
        return .ok ()
      | none =>
        createFile path (toBytes text) 0o666
        return .ok ()

/-- The directory in which a path lies, as the start of another path. -/
def below (directory : String) (name : String) : String :=
  if directory.endsWith "/" then directory ++ name else directory ++ "/" ++ name

/-- The names in the directory at a path, in order. -/
def namesIn (path : Path) : Act (List String) := do
  let v ← volume
  let paths := v.directories ++ v.files.map (·.1) ++ v.links.map (·.1) ++
    v.pipes ++ Volume.standingDirectories ++ [v.base, ["/", "dev", "null"], ["/", "dev", "full"],
      ["/", "dev", "zero"], ["/", "etc", "passwd"], ["/", "etc", "group"], ["/", "etc", "hosts"],
      ["/", "etc", "hostname"], ["/", "etc", "shells"]] ++
    (programs.flatMap fun p => [["/", "bin", p], ["/", "usr", "bin", p]])
  let found := paths.filterMap fun p =>
    if path.isPrefixOf p && p.length = path.length + 1 && (path != [] || p.head? != some "/") then
      (p.getLast?).map ofWorld
    else none
  return (found.mergeSort (· ≤ ·)).eraseDups

end Act

end BoardConsole.Shell
