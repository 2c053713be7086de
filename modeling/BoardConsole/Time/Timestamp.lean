import BoardConsole.Time.Duration

/-!
# Time — Timestamps

A sample of a time source: whole seconds in a 64-bit word and nanoseconds in a 32-bit word, below
one second in a normal timestamp. Differences borrow a second and stop at zero; milliseconds stop
at the largest word.
-/

namespace BoardConsole

/-- A sample of a time source. -/
structure Timestamp where
  secs  : UInt64
  nanos : UInt32
deriving DecidableEq, Repr

namespace Timestamp

def zero : Timestamp := ⟨0, 0⟩

/-- Nanoseconds in one second. -/
def nanosPerSecond : UInt32 := 1000000000

/-- Nanoseconds in one millisecond. -/
def nanosPerMilli : UInt32 := 1000000

/-- The nanoseconds are below one second. -/
def Normal (t : Timestamp) : Prop := t.nanos < nanosPerSecond

instance (t : Timestamp) : Decidable t.Normal :=
  inferInstanceAs (Decidable (t.nanos < nanosPerSecond))

/-- The normal timestamp of these parts: excess nanoseconds are carried into the seconds, which
stop at the largest word. -/
def ofParts (secs : UInt64) (nanos : UInt32) : Timestamp where
  secs  := Millis.plus secs (nanos / nanosPerSecond).toUInt64
  nanos := nanos % nanosPerSecond

/-- The sample a duration after the origin; the seconds wrap where they do not fit a word. -/
def ofDuration (d : Duration) : Timestamp where
  secs  := UInt64.ofNat d.secs
  nanos := UInt32.ofNat d.subsecNanos

/-- Earlier seconds come first, then earlier nanoseconds. -/
def cmp (a b : Timestamp) : Ordering :=
  (compare a.secs b.secs).then (compare a.nanos b.nanos)

instance : Ord Timestamp := ⟨cmp⟩

/-- Whether `a` is no later than `b`. -/
def isAtMost (a b : Timestamp) : Bool := a.cmp b != .gt

/-- The time from `earlier` to `t`, zero where `earlier` is not the earlier one. A second is
borrowed where the nanoseconds alone would fall below zero. -/
def since (t earlier : Timestamp) : Timestamp :=
  if t.isAtMost earlier then zero
  else if t.nanos < earlier.nanos then
    ⟨t.secs - earlier.secs - 1, nanosPerSecond + t.nanos - earlier.nanos⟩
  else
    ⟨t.secs - earlier.secs, t.nanos - earlier.nanos⟩

/-- Whole milliseconds, stopping at the largest word. -/
def toMillis (t : Timestamp) : Millis :=
  Millis.plus (Millis.times t.secs 1000) (t.nanos / nanosPerMilli).toUInt64

/-- The timestamp a duration later, its seconds stopping at the largest word. -/
def after (t : Timestamp) (d : Duration) : Timestamp :=
  let nanos := t.nanos.toNat + d.subsecNanos
  ⟨Millis.clamp (t.secs.toNat + d.secs + nanos / Duration.second),
    UInt32.ofNat (nanos % Duration.second)⟩

end Timestamp

end BoardConsole
