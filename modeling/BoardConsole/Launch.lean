import BoardConsole.CommandLine
import BoardConsole.Config.Read
import BoardConsole.Console.Background
import BoardConsole.Foreground
import BoardConsole.Functions.Standard
import BoardConsole.Lines.File

/-!
# Launching the program

From the arguments to the exit status: the configuration is looked for, the console built, the lines
of the start-up file run and then those of the input. `Launch.run` does all of it on files and an
input that are given beforehand; what the program does after it asked for its end has no effect.
-/

namespace BoardConsole

/-- The host that a configuration describes. -/
def Config.host (config : Config) (source : TimeSource) (volume : Volume) : Host where
  clock       := .start source
  pins        := .low config.pinCount
  storage     := .fresh config.storageSize
  output      := .toConsole (.fresh .endless)
  volume      := volume
  defaultFile := config.defaultFile
  events      := []

/-- The console that a configuration describes. -/
def Config.console (config : Config) (host : Host) (functions : FunctionTable) : Console :=
  .new host functions config.maxTasks config.idleInterval

namespace Launch

/-- What a program finds when it is started. -/
structure Surroundings where
  arguments      : List String
  /-- The environment's configuration file. -/
  configVariable : Option String
  volume         : Volume
  input          : Input

/-- What a program leaves behind. -/
structure Outcome where
  status : Nat
  output : List UInt8
  volume : Volume

/-! ### Statuses -/

def succeeded : Nat := 0

/-- The program could not be set up. -/
def failed : Nat := 1

/-- The arguments could not be understood. -/
def misused : Nat := 2

/-- The program was broken off. -/
def brokenOff : Nat := 101

/-- The program was stopped for want of memory. -/
def starved : Nat := 134

/-- The status that the end of the program is asked for with. -/
def statusOf (code : Int32) : Nat := (code.toInt % 256).toNat

/-! ### Setting up -/

/-- The configuration file of the working directory. -/
def localConfig : String := "script-host.toml"

/-- The configuration file: the one asked for, or else the first that is there. -/
def configFile? (options : Options) (environment : Option String) (volume : Volume) : Option String :=
  options.config.or
    ((environment.filter volume.isThere).or
      (if volume.isThere localConfig then some localConfig else none))

/-- The configuration of a run. -/
def configOf (options : Options) (environment : Option String) (volume : Volume) :
    Except ConfigError Config := do
  let config ←
    match configFile? options environment volume with
    | some path => Config.ofFile volume path
    | none      => pure .standard
  return { config with clockSource := options.clock.getD config.clockSource }

/-- The lines of the start-up file; nothing where it cannot be opened, no lines where none is asked
for. -/
def startUpLines? (options : Options) (volume : Volume) : Option Input :=
  match options.load with
  | none      => some []
  | some name => volume.openInput? name

/-- The status that a piece of memory of some bytes ends the program with: one that no program may
ask for breaks it off, one beyond the addresses that there are starves it. -/
def refusal? (bytes : Nat) : Option Nat :=
  if Nat.pow 2 63 ≤ bytes then some brokenOff else if Nat.pow 2 47 ≤ bytes then some starved else none

/-- The bytes of one slot of the task table. -/
def slotSize : Nat := 48

/-- A thread's name cannot hold a NUL. -/
def canName (name : String) : Bool := !name.contains '\x00'

/-- What is set up before the first line is run, or the status where that fails. -/
def setUp (options : Options) (environment : Option String) (volume : Volume) :
    Except Nat (Config × Option Input) :=
  match configOf options environment volume with
  | .error .tooLong => .error brokenOff
  | .error _        => .error failed
  | .ok config =>
    match (refusal? config.storageSize).or (refusal? (config.maxTasks * slotSize)) with
    | some status => .error status
    | none =>
      if !canName config.scheduler.threadName then .error brokenOff
      else
        match startUpLines? options volume, refusal? (LineBuffer.new config.maxLineLen).limit with
        | some _, some status => .error status
        | startUp, _          => .ok (config, startUp)

/-! ### Running -/

/-- The request for the end of the program that counts: the first. -/
def exit? (h : Host) : Option (Int32 × Volume × Nat) :=
  h.events.findSome? fun event =>
    match event.request with
    | .exit code volume => some (code, volume, event.printed)
    | .pause _          => none

/-- What a host leaves behind where the program otherwise ends with a status. -/
def outcome (status : Nat) (h : Host) : Outcome :=
  match exit? h with
  | some (code, volume, printed) => ⟨statusOf code, h.consoleBytes.take printed, volume⟩
  | none                         => ⟨status, h.consoleBytes, h.volume⟩

/-- Runs the lines of an input under the lock of a console. -/
def runLines (config : Config) (input : Input) (lock : ExecutionLock Console) :
    ExecutionLock Console :=
  (Foreground.runLocked config.maxLineLen input lock).2

/-- Runs a program that is set up with options, without its background thread. -/
def runWith (options : Options) (s : Surroundings) : Outcome :=
  match setUp options s.configVariable s.volume with
  | .error status => ⟨status, [], s.volume⟩
  | .ok (_, none) => ⟨failed, [], s.volume⟩
  | .ok (config, some startUp) =>
    let host := config.host (.moved ⟨1, 0⟩) s.volume
    let lock := ExecutionLock.guard (config.console host .standard)
    let lock := runLines config startUp lock
    let lock := runLines config s.input lock
    outcome succeeded lock.value.host

/-- Runs a program without its background thread. -/
def run (s : Surroundings) : Outcome :=
  match CommandLine.parse s.arguments with
  | .version     => ⟨succeeded, Text.Utf8.encode CommandLine.versionText, s.volume⟩
  | .help        => ⟨succeeded, Text.Utf8.encode CommandLine.helpText, s.volume⟩
  | .misuse      => ⟨misused, [], s.volume⟩
  | .run options => runWith options s

/-! ### One turn at a time -/

/-- What is to be done outside, in order. -/
inductive Effect where
  | print (bytes : List UInt8)
  | pause (duration : Duration)
  | store (files : List (Path × List UInt8))
  | exit (status : Nat)

/-- The effects of events, where the bytes on the console from `done` on are still to be printed. -/
def effectsOf (h : Host) (done : Nat) : List Event → List Effect
  | [] => [.print (h.consoleBytes.drop done), .store h.volume.files]
  | event :: events =>
    let now := (h.consoleBytes.take event.printed).drop done
    match event.request with
    | .pause d          => .print now :: .pause d :: effectsOf h event.printed events
    | .exit code volume => [.print now, .store volume.files, .exit (statusOf code)]

/-- The effects that wait in a host, and the host without them. -/
def takeEffects (h : Host) : List Effect × Host :=
  (effectsOf h 0 h.events,
    { h with
      events := []
      output := { h.output with sinks := [.fresh .endless] }
      volume := { h.volume with files := [] } })

/-- A clock that shows a time, moving on by the delays from now on. -/
def showTime (now : Timestamp) (h : Host) : Host :=
  let before := h.clock.waited
  { h with clock := { h.clock with source := fun _ waited => now.after (waited.minus before) } }

/-- Gives a console a turn at a time, and takes the effects of it. -/
def turn {α : Type} (now : Timestamp) (act : Console → α × Console) (c : Console) :
    (α × List Effect) × Console :=
  let (a, c) := act { c with host := showTime now c.host }
  let (effects, host) := takeEffects c.host
  ((a, effects), { c with host })

end Launch

end BoardConsole
