import BoardConsole.Time.Duration

/-!
# Time — Deadlines

The time until the task runner wants to be called again, in milliseconds.
-/

namespace BoardConsole

/-- The time until the next run; a fresh one is computed after every run. -/
structure Deadline where
  millis : Millis
deriving DecidableEq, Repr

namespace Deadline

/-- A duration rounded down to whole milliseconds. -/
def ofDuration (d : Duration) : Deadline := ⟨d.toMillis⟩

def toDuration (d : Deadline) : Duration := Duration.ofMillis d.millis

def isImmediate (d : Deadline) : Bool := d.millis == 0

/-- The deadline in words. -/
def text (d : Deadline) : String := s!"{d.millis.toNat}ms"

end Deadline

end BoardConsole
