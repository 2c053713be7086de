/-!
# Output — Sinks

A sink hands bytes to its device, which takes perhaps only some of those offered, and can fail. How
it answers is any function of what went before. `deliver` offers the rest again until all is taken,
the device fails, or it takes nothing. A sink may have a buffer: what fits is held back until there
is more than the buffer has room for, or the sink is flushed.
-/

namespace BoardConsole

/-- Why output did not get through. -/
inductive WriteFault where
  /-- The device has no room left. -/
  | noSpace
  /-- The device took none of the bytes offered. -/
  | stalled
  /-- The device could not be flushed. -/
  | flushFailed
deriving DecidableEq, Repr

/-- The words for a fault. -/
def WriteFault.message : WriteFault → String
  | noSpace     => "no space"
  | stalled     => "failed to write whole buffer"
  | flushFailed => "flush failed"

/-- The answer to one write. A write that is interrupted is made again at once, and has no answer of
its own. -/
inductive WriteReply where
  /-- The first `n` bytes were taken, or all where fewer were offered. -/
  | took (n : Nat)
  | failed (fault : WriteFault)

/-- How a sink behaves. -/
structure Device where
  /-- The answer to a write after `calls` others, with `sent` taken so far, the last byte first. -/
  write : (calls : Nat) → (sent offered : List UInt8) → WriteReply
  /-- What goes wrong in a flush after `flushes` others. -/
  flush : (flushes : Nat) → Option WriteFault

namespace Device

/-- A device that takes everything. -/
def endless : Device := ⟨fun _ _ offered => .took offered.length, fun _ => none⟩

/-- A device that takes `room` bytes in all and then fails, or takes nothing where it `stalls`. -/
def limited (room : Option Nat) (stalls flushFails : Bool) : Device where
  write _ sent offered :=
    match room with
    | none => .took offered.length
    | some room =>
      let left := room - sent.length
      if 0 < left then .took left else if stalls then .took 0 else .failed .noSpace
  flush _ := if flushFails then some .flushFailed else none

end Device

/-- A target of output, with everything its device took so far. -/
structure Sink where
  device  : Device
  /-- The bytes that the device took, the last one first. -/
  sent    : List UInt8
  /-- The number of writes so far. -/
  calls   : Nat
  /-- The number of flushes so far. -/
  flushes : Nat
  /-- How many bytes the buffer has room for; none where there is no buffer. -/
  room    : Nat
  /-- The bytes that are held back, in order. -/
  held    : List UInt8

namespace Sink

/-- A sink that has taken nothing yet. -/
def fresh (device : Device) : Sink := ⟨device, [], 0, 0, 0, []⟩

/-- A sink with a buffer that has taken nothing yet. -/
def buffered (room : Nat) (device : Device) : Sink := { fresh device with room }

/-- The bytes that the device took, in order. -/
def bytes (s : Sink) : List UInt8 := s.sent.reverse

/-- Offers bytes to the device once. -/
def write (s : Sink) (offered : List UInt8) : WriteReply × Sink :=
  let reply := s.device.write s.calls s.sent offered
  let taken :=
    match reply with
    | .took n   => offered.take n
    | .failed _ => []
  (reply, { s with sent := taken.reverseAux s.sent, calls := s.calls + 1 })

/-- Offers bytes to the device until all are taken; otherwise answers what went wrong. Answers the
bytes that were not taken too. -/
def deliver (s : Sink) (bytes : List UInt8) : Option WriteFault × List UInt8 × Sink :=
  match bytes with
  | [] => (none, [], s)
  | b :: rest =>
    match s.write (b :: rest) with
    | (.failed fault, s)  => (some fault, b :: rest, s)
    | (.took 0, s)        => (some .stalled, b :: rest, s)
    | (.took (n + 1), s)  => s.deliver (rest.drop n)
termination_by bytes.length
decreasing_by
  simp only [List.length_drop, List.length_cons]
  omega

/-- The room that is left in the buffer. -/
def spare (s : Sink) : Nat := s.room - s.held.length

/-- Holds bytes back. -/
def hold (s : Sink) (bytes : List UInt8) : Sink := { s with held := s.held ++ bytes }

/-- Delivers what is held back; what the device does not take is held back still. -/
def passOn (s : Sink) : Option WriteFault × Sink :=
  let (fault, left, s) := s.deliver s.held
  (fault, { s with held := left })

/-- Takes bytes behind what is held back; those that would fill an empty buffer are delivered at
once. -/
def takeIn (s : Sink) (bytes : List UInt8) : Option WriteFault × Sink :=
  if bytes.length < s.room then (none, s.hold bytes)
  else
    let (fault, _, s) := s.deliver bytes
    (fault, s)

/-- Takes all of some bytes; otherwise answers what went wrong. Where they do not fit beside what is
held back, that is passed on first. -/
def writeAll (s : Sink) (bytes : List UInt8) : Option WriteFault × Sink :=
  if bytes.length < s.spare then (none, s.hold bytes)
  else
    match if s.spare < bytes.length then s.passOn else (none, s) with
    | (some fault, s) => (some fault, s)
    | (none, s)       => s.takeIn bytes

/-- Passes on what is held back and flushes the device. -/
def flush (s : Sink) : Option WriteFault × Sink :=
  match s.passOn with
  | (some fault, s) => (some fault, s)
  | (none, s)       => (s.device.flush s.flushes, { s with flushes := s.flushes + 1 })

/-- Flushes the sink and gives it up. What is held back even then is offered once more. -/
def close (s : Sink) : Option WriteFault × Sink :=
  let (fault, s) := s.flush
  (fault, s.passOn.2)

end Sink

end BoardConsole
