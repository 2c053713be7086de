import BoardConsole.Time.Saturating

/-!
# Time — Durations

A length of time, counted in nanoseconds. Its whole seconds are a 64-bit word wherever a duration
is written with words (`fits`).
-/

namespace BoardConsole

/-- A length of time. -/
structure Duration where
  nanos : Nat
deriving DecidableEq, Repr

namespace Duration

def zero : Duration := ⟨0⟩

/-- Nanoseconds in one second. -/
def second : Nat := 1000000000

/-- Nanoseconds in one millisecond. -/
def millisecond : Nat := 1000000

/-- `secs` seconds and `nanos` nanoseconds. -/
def ofParts (secs nanos : Nat) : Duration := ⟨secs * second + nanos⟩

/-- A whole number of milliseconds. -/
def ofMillis (ms : Millis) : Duration := ⟨ms.toNat * millisecond⟩

/-- A whole number of microseconds. -/
def ofMicros (us : Nat) : Duration := ⟨us * 1000⟩

/-- Whole seconds. -/
def secs (d : Duration) : Nat := d.nanos / second

/-- Nanoseconds past the last whole second. -/
def subsecNanos (d : Duration) : Nat := d.nanos % second

def isZero (d : Duration) : Bool := d.nanos == 0

/-- Whole milliseconds, stopping at the largest word. -/
def toMillis (d : Duration) : Millis := Millis.clamp (d.nanos / millisecond)

/-- The time left of `d` after `spent`. -/
def minus (d spent : Duration) : Duration := ⟨d.nanos - spent.nanos⟩

def plus (d e : Duration) : Duration := ⟨d.nanos + e.nanos⟩

/-- Whether the whole seconds fit a 64-bit word. -/
def fits (d : Duration) : Bool := d.secs < UInt64.size

end Duration

end BoardConsole
