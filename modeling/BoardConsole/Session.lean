import BoardConsole.Launch

/-!
# Sessions

A console with its host and its scheduler, whose clock stands still until it is moved by hand or by
the scheduler's sleeps. Requests to end the program are only noted.
-/

namespace BoardConsole

/-- A console, its scheduler, and the time that its clock is shown. -/
structure Session where
  config    : Config
  functions : FunctionTable
  now       : Timestamp
  lock      : ExecutionLock Console
  scheduler : Scheduler

namespace Session

/-- The time that the clock of a new session shows. -/
def epoch : Timestamp := ⟨1000, 0⟩

/-- A new session. -/
def new (config : Config) (functions : FunctionTable) : Session where
  config    := config
  functions := functions
  now       := epoch
  lock      := .guard (config.console (config.host (.standing epoch) .empty) functions)
  scheduler := .fresh config.scheduler

def console (s : Session) : Console := s.lock.value

def host (s : Session) : Host := s.console.host

/-- Changes the console. -/
def onConsole (s : Session) (f : Console → Console) : Session :=
  { s with lock := { s.lock with value := f s.lock.value } }

/-- Changes the host. -/
def onHost (s : Session) (f : Host → Host) : Session :=
  s.onConsole fun c => { c with host := f c.host }

/-- Everything the console has been given so far. -/
def printed (s : Session) : List UInt8 := s.host.consoleBytes

/-- Shows the clock another time. -/
def setTime (s : Session) (now : Timestamp) : Session :=
  { s.onHost fun h => { h with clock := { h.clock with source := .standing now } } with now }

/-- Moves the time on. -/
def advance (s : Session) (d : Duration) : Session := s.setTime (s.now.after d)

/-- A new console and scheduler on the same host. -/
def restart (s : Session) : Session :=
  { s with
    lock      := .guard (s.config.console s.host s.functions)
    scheduler := .fresh s.config.scheduler }

/-- Runs a line typed at the console. -/
def doCommand (s : Session) (line : String) : Session :=
  { s with lock := s.lock.doCommand line }

/-- Runs a line and answers its value or its error. -/
def execute (s : Session) (line : String) : Except CommandError Arg × Session :=
  match Console.execute line s.console with
  | .ok v c    => (.ok v, s.onConsole fun _ => c)
  | .error e c => (.error e, s.onConsole fun _ => c)

/-- Calls a registered function; nothing where there is none of that name. -/
def callFunction (s : Session) (name : String) (args : List Arg) (listing : String) :
    Option (Except HostError Int32 × Session) :=
  (s.functions.lookup? name).map fun f =>
    match f ⟨args, (·.emitLine listing)⟩ s.host with
    | .ok n h    => (.ok n, s.onHost fun _ => h)
    | .error e h => (.error e, s.onHost fun _ => h)

/-- Runs the tasks that are due. -/
def background (s : Session) : Deadline × Session :=
  let (deadline, c) := s.console.runBackgroundTasks
  (deadline, s.onConsole fun _ => c)

/-- Runs the lines of an input. -/
def feed (s : Session) (input : Input) : LoopSummary × Session :=
  let (summary, lock) := Foreground.runLocked s.config.maxLineLen input s.lock
  (summary, { s with lock })

/-- Runs the lines of a file; nothing where it cannot be opened. -/
def load (s : Session) (name : String) : Option (LoopSummary × Session) :=
  (s.host.volume.openInput? name).map s.feed

/-- What several scheduler steps come to. -/
structure Scheduled where
  afters   : List AfterRun
  requests : List Duration
  session  : Session

/-- Runs scheduler steps; the time moves on by what they sleep. -/
def schedule (s : Session) (script : List Interruption) : (steps : Nat) → Scheduled
  | 0     => ⟨[], [], s⟩
  | n + 1 =>
    match s.scheduler.step s.lock script with
    | (.panicked, lock) => ⟨[], [], { s with lock }⟩
    | (.returned done, lock) =>
      let s := { s with lock, scheduler := done.scheduler }.advance done.slept.total
      let rest := s.schedule done.slept.unused n
      { rest with
        afters   := done.after :: rest.afters
        requests := done.slept.requests ++ rest.requests }

/-- Takes a new reference sample for the clock. -/
def resetClock (s : Session) : Session :=
  s.onHost fun h => { h with clock := h.clock.reset }

/-- Reads the clock. -/
def readClock (s : Session) : Millis × Session :=
  let (now, h) := s.host.readClock
  (now, s.onHost fun _ => h)

/-- Writes one byte of the storage. -/
def poke (s : Session) (address : Nat) (b : UInt8) : Except HostError Session :=
  (s.host.storage.write address b).map fun storage => s.onHost fun h => { h with storage }

end Session

end BoardConsole
