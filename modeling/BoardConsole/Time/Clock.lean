import BoardConsole.Time.Timestamp

/-!
# Time — The millisecond clock

A clock counts whole milliseconds from a reference sample of its time source. A reading is never
smaller than an earlier one since the last reset, whatever the source shows. Delays take no sample;
the source is told how long they have been.
-/

namespace BoardConsole

/-- Which source of the platform a clock is read from. -/
inductive ClockSource where
  | monotonic
  | wall
deriving DecidableEq, Repr

namespace ClockSource

/-- The word for a source, in settings and on the command line. -/
def name : ClockSource → String
  | monotonic => "monotonic"
  | wall      => "wall"

/-- The source of that word. -/
def ofName? (s : String) : Option ClockSource :=
  if s = "monotonic" then some monotonic else if s = "wall" then some wall else none

theorem ofName?_name (source : ClockSource) : ofName? source.name = some source := by
  cases source <;> decide

end ClockSource

/-- What a source shows at its `n`th sample, counted from zero, once delays of `waited` in all have
passed. Any behaviour of a source, steps backwards included, is such a function. -/
abbrev TimeSource := (n : Nat) → (waited : Duration) → Timestamp

namespace TimeSource

/-- A source that stands still. -/
def standing (t : Timestamp) : TimeSource := fun _ _ => t

/-- A source that moves on by the delays only. -/
def moved (t : Timestamp) : TimeSource := fun _ waited => t.after waited

/-- A source that shows these samples in order and repeats the last one for ever. -/
def scripted (samples : List Timestamp) : TimeSource := fun n _ =>
  (samples[n]?).getD (samples.getLastD Timestamp.zero)

end TimeSource

/-- A millisecond clock. -/
structure Clock where
  source  : TimeSource
  /-- Samples taken so far. -/
  taken   : Nat
  /-- The time of all delays so far. -/
  waited  : Duration
  /-- The reference sample. -/
  startup : Timestamp
  /-- The largest reading since the reference sample. -/
  latest  : Millis

namespace Clock

/-- The next sample of the source. -/
def sample (c : Clock) : Timestamp × Clock :=
  (c.source c.taken c.waited, { c with taken := c.taken + 1 })

/-- A clock on a source, counting from the source's first sample. -/
def start (source : TimeSource) : Clock where
  source  := source
  taken   := 1
  waited  := .zero
  startup := source 0 .zero
  latest  := 0

/-- Milliseconds since the reference sample: those of a new sample, or of an earlier reading where
that is larger. -/
def read (c : Clock) : Millis × Clock :=
  let (now, c) := c.sample
  let reading := max c.latest (now.since c.startup).toMillis
  (reading, { c with latest := reading })

/-- Counts from a new reference sample. -/
def reset (c : Clock) : Clock :=
  let (now, c) := c.sample
  { c with startup := now, latest := 0 }

/-- Waits. -/
def delay (c : Clock) (d : Duration) : Clock :=
  { c with waited := c.waited.plus d }

end Clock

end BoardConsole
