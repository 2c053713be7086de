import BoardConsole.Launch
import BoardConsole.Scheduler

/-!
# The program

Runs the console on the lines of the standard input, with the scheduler on a thread of its own. A
turn of either is one exchange of the shared console, so neither sees the other in the middle of a
line; what a turn asks for is done after it. Both clock sources are read from the steady counter of
the system.
-/

namespace BoardConsole.Main

/-- The time now. -/
def now : IO Timestamp := do
  return .ofDuration ⟨← IO.monoNanosNow⟩

/-- The bytes of a file, where it can be read. -/
def bytesOf? (name : String) : IO (Option (List UInt8)) := do
  try
    return some (← IO.FS.readBinFile name).toList
  catch _ =>
    return none

/-- Puts a file that can be read into a volume, with the directories on its way. -/
def mountFile (volume : Volume) (name : String) : IO Volume := do
  match ← bytesOf? name with
  | none => return volume
  | some bytes =>
    let path := Volume.origin name ++ Volume.components name
    let directories := (List.range path.length).map path.take
    return (directories.foldl Volume.addDirectory volume).write name bytes

/-- The working directory and the directories below it, as far down as files are usually saved. -/
def workingTree : IO Volume := do
  try
    let here ← IO.currentDir
    let depth := here.components.length
    let found ← here.walkDir fun p => return p.components.length ≤ depth + 3
    let directories ← found.filterM (·.isDir)
    return { Volume.empty with
      base        := "/" :: here.components.filter (· != "")
      directories := directories.toList.map fun p => p.components.drop depth }
  catch _ =>
    return .empty

/-- What the program finds of the files it may be asked to read at the start. -/
def mount (options : Options) (environment : Option String) : IO Volume := do
  let names := [options.config, environment, some Launch.localConfig, options.load].filterMap id
  names.foldlM mountFile (← workingTree)

/-- Sleeps for some milliseconds, or until the program ends. -/
partial def sleepMillis (ended : IO Bool) (ms : Nat) : IO Unit := do
  if ms = 0 || (← ended) then return
  let slice := min ms 50
  IO.sleep (UInt32.ofNat slice)
  sleepMillis ended (ms - slice)

/-- Writes a file, in directories that are made where they are missing. -/
def store (path : Path) (bytes : List UInt8) : IO Unit := do
  if 1 < path.length then IO.FS.createDirAll (Volume.nameOf path.dropLast)
  IO.FS.writeBinFile (Volume.nameOf path) (ByteArray.mk bytes.toArray)

/-- Does what a turn asks for, and answers the status where the program is to end. -/
def perform : List Launch.Effect → IO (Option Nat)
  | [] => return none
  | .print bytes :: effects => do
    let stdout ← IO.getStdout
    stdout.write (ByteArray.mk bytes.toArray)
    stdout.flush
    perform effects
  | .pause d :: effects => do
    sleepMillis (return false) ((d.nanos + Duration.millisecond - 1) / Duration.millisecond)
    perform effects
  | .store files :: effects => do
    for (path, bytes) in files do
      try store path bytes catch _ => pure ()
    perform effects
  | .exit status :: _ => return some status

/-- The console that both threads share, and the status once the program is to end. -/
structure Shared where
  console : IO.Ref Console
  status  : IO.Ref (Option Nat)

/-- Gives the console a turn and does what it asks for. -/
def Shared.turn {α : Type} (shared : Shared) (act : Console → α × Console) : IO α := do
  let time ← now
  let (a, effects) ← shared.console.modifyGet (Launch.turn time act)
  match ← perform effects with
  | some status => shared.status.modify fun before => before.or (some status)
  | none        => pure ()
  return a

def Shared.ended (shared : Shared) : IO Bool := do
  return (← shared.status.get).isSome

/-- Runs the tasks and sleeps, until the program ends. -/
partial def background (shared : Shared) (scheduler : Scheduler) : IO Unit := do
  if ← shared.ended then return
  let deadline ← shared.turn Console.runBackgroundTasks
  let step := scheduler.settle deadline []
  for request in step.slept.requests do
    sleepMillis shared.ended (request.nanos / Duration.millisecond)
  background shared step.scheduler

/-- The next line of a stream with its end; no bytes at the end of the stream. -/
partial def readLine (stream : IO.FS.Stream) (line : Array UInt8) : IO (Array UInt8) := do
  let bytes ← stream.read 1
  match bytes.toList with
  | []     => return line
  | b :: _ => if b = Input.newline then return line.push b else readLine stream (line.push b)

/-- Runs lines of an input. -/
def Shared.runLines (shared : Shared) (config : Config) (input : Input) : IO Unit :=
  shared.turn (Foreground.run Console.doCommand config.maxLineLen input · |>.map (fun _ => ()) id)

/-- Runs the lines of a stream, until it or the program ends. -/
partial def foreground (shared : Shared) (config : Config) (stream : IO.FS.Stream) : IO Unit := do
  let line ← readLine stream #[]
  if line.isEmpty || (← shared.ended) then return
  shared.runLines config (.ofBytes line.toList)
  if ← shared.ended then return
  foreground shared config stream

/-- Runs a program that is set up: the lines of the start-up file, then those of the input. -/
def serve (config : Config) (startUp : Option Input) : IO Nat := do
  let host := config.host (.standing (← now)) { ← workingTree with files := [] }
  let shared : Shared :=
    { console := ← IO.mkRef (config.console host .standard), status := ← IO.mkRef none }
  let thread ← IO.asTask (background shared (.fresh config.scheduler)) Task.Priority.dedicated
  match startUp with
  | none => shared.status.set (some Launch.failed)
  | some input =>
    shared.runLines config input
    foreground shared config (← IO.getStdin)
    shared.status.modify fun before => before.or (some Launch.succeeded)
  let _ ← IO.wait thread
  return (← shared.status.get).getD Launch.succeeded

/-- Runs the program with its arguments. -/
def run (args : List String) : IO Nat := do
  match CommandLine.parse args with
  | .misuse  => return Launch.misused
  | .version =>
    IO.print CommandLine.versionText
    return Launch.succeeded
  | .help =>
    IO.print CommandLine.helpText
    return Launch.succeeded
  | .run options =>
    let environment ← IO.getEnv "SCRIPT_HOST_CONFIG"
    match Launch.setUp options environment (← mount options environment) with
    | .error status         => return status
    | .ok (config, startUp) => serve config startUp

end BoardConsole.Main

def main (args : List String) : IO UInt32 := do
  return UInt32.ofNat (← BoardConsole.Main.run args)
