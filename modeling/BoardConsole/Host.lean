import BoardConsole.Output.Router
import BoardConsole.Pins
import BoardConsole.Storage.Entries
import BoardConsole.Time.Clock
import BoardConsole.Volume

/-!
# Host — The services that scripts run against

A host owns the clock, the pins, the storage, the output and the files. A delay and the end of the
program take effect outside: the host keeps each request for them with the number of bytes that the
console had been given, so that whoever runs it can act on all in the right order.
-/

namespace BoardConsole

/-- What a host asks of whoever runs it. -/
inductive Request where
  | pause (duration : Duration)
  /-- End the program, with the files as they are now. -/
  | exit (code : Int32) (volume : Volume)

/-- A request and when it was made. -/
structure Event where
  request : Request
  /-- The bytes on the console at that moment. -/
  printed : Nat

/-- The services of one board. -/
structure Host where
  clock       : Clock
  pins        : PinBank
  storage     : Storage
  output      : Router
  volume      : Volume
  /-- The file that is written where none is named. -/
  defaultFile : String
  /-- The requests made so far, in order. -/
  events      : List Event

namespace Host

/-- The bytes on the console. -/
def consoleBytes (h : Host) : List UInt8 := h.output.bytesOf 0

/-- Emits a line. -/
def emitLine (h : Host) (text : String) : Host := { h with output := h.output.emitLine text }

/-- Reads the clock. -/
def readClock (h : Host) : Millis × Host :=
  let (now, clock) := h.clock.read
  (now, { h with clock })

/-- Makes a request. -/
def ask (h : Host) (request : Request) : Host :=
  { h with events := h.events ++ [⟨request, h.consoleBytes.length⟩] }

/-- Waits. -/
def delay (h : Host) (duration : Duration) : Host :=
  if duration.isZero then h
  else { h with clock := h.clock.delay duration }.ask (.pause duration)

/-- Asks for the end of the program. -/
def exit (h : Host) (code : Int32) : Host := h.ask (.exit code h.volume)

/-- The codes that the end of the program was asked for with, in order. -/
def exits (h : Host) : List Int32 :=
  h.events.filterMap fun event =>
    match event.request with
    | .exit code _ => some code
    | .pause _     => none

/-- The line that defines a stored macro again. -/
def definitionLine (entry : MacroEntry) : String :=
  "function " ++ entry.name ++ " \x7b" ++ entry.body ++ "\x7d;"

/-- Prints every stored macro as the line that defines it again. -/
def printListing (h : Host) : Host :=
  h.storage.entries.foldl (fun h entry => h.emitLine (definitionLine entry)) h

/-- Sends what `listing` prints to a sink. Answers the first fault, what the device of the sink
took, and the host with the output as it was. -/
def capture (h : Host) (sink : Sink) (listing : Host → Host) :
    Option WriteFault × List UInt8 × Host :=
  let id := h.output.sinks.length
  let (redirect, output) := h.output.redirect sink
  let h := listing { h with output }
  let (fault, output) := h.output.finish redirect
  (fault, output.bytesOf id, { h with output })

/-- How what stands at a place takes bytes. -/
def deviceAt : Place → Device
  | .special .full => .limited (some 0) false false
  | _              => .endless

/-- The room of the buffer of a file that is written. -/
def fileBuffer : Nat := 8192

/-- Writes what `listing` prints to the file of a name, which is made empty first; what stands at a
place takes bytes as `devices` says. Answers whether all of it got there. -/
def saveThrough (h : Host) (devices : Place → Device) (listing : Host → Host) (name : String) :
    Bool × Host :=
  match h.volume.locate name with
  | .error _ => (false, h)
  | .ok place =>
    let h := { h with volume := h.volume.store place [] }
    let (fault, bytes, h) := h.capture (.buffered fileBuffer (devices place)) listing
    (fault.isNone, { h with volume := h.volume.store place bytes })

/-- Writes what `listing` prints to a file. Answers whether all of it got there. -/
def save (h : Host) (listing : Host → Host) (name : String) : Bool × Host :=
  h.saveThrough deviceAt listing name

end Host

end BoardConsole
