import BoardConsole.Functions.Table

/-!
# Functions — The board

The twelve functions of the board: pins, analog stubs, clock, delays, the byte store and the serial
line. A missing argument is zero; a negative pin or address is the largest word, which no bank and
no store reaches.
-/

namespace BoardConsole.Hardware

/-- The pin that an argument names. -/
def pinOf (n : Int32) : UInt32 := if n < 0 then 0xFFFFFFFF else n.toUInt32

/-- The address that an argument names. -/
def addressOf (n : Int32) : Nat := if n < 0 then Nat.pow 2 64 - 1 else n.toInt.toNat

/-- The length that an argument names; a negative one is zero. -/
def lengthOf (n : Int32) : Nat := n.toInt.toNat

def pinMode : Function := fun inv => do
  let h ← get
  ofExcept (h.pins.setMode (pinOf (inv.numOrZero 1)))
  return 0

def digitalRead : Function := fun inv => do
  let h ← get
  let high ← ofExcept (h.pins.read (pinOf (inv.numOrZero 1)))
  return if high then 1 else 0

def digitalWrite : Function := fun inv => do
  let h ← get
  let pins ← ofExcept (h.pins.write (pinOf (inv.numOrZero 1)) (inv.numOrZero 2 != 0))
  set { h with pins }
  return 0

def analogRead : Function := fun _ => return PinBank.stubReading

def analogWrite : Function := fun _ => return 0

def pulseIn : Function := fun _ => return PinBank.stubReading

/-- The clock's milliseconds, as a counter of 32 bits that wraps. -/
def millis : Function := fun _ => do
  let h ← get
  let (now, h) := h.readClock
  set h
  return now.toUInt32.toInt32

def delay : Function := fun inv => do
  modify (·.delay ⟨lengthOf (inv.numOrZero 1) * Duration.millisecond⟩)
  return 0

def delayMicroseconds : Function := fun inv => do
  modify (·.delay (Duration.ofMicros (lengthOf (inv.numOrZero 1))))
  return 0

def eeread : Function := fun inv => do
  let h ← get
  let b ← ofExcept (h.storage.read (addressOf (inv.numOrZero 1)))
  return Int32.ofNat b.toNat

/-- Writes the low eight bits of the second argument. -/
def eewrite : Function := fun inv => do
  let h ← get
  let b := (inv.numOrZero 2).toUInt32.toUInt8
  let storage ← ofExcept (h.storage.write (addressOf (inv.numOrZero 1)) b)
  set { h with storage }
  return 0

def setBaud : Function := fun _ => return PinBank.baudReply

/-- The functions of the board, by name. -/
def all : List (String × Function) :=
  [("pinMode", pinMode), ("digitalRead", digitalRead), ("digitalWrite", digitalWrite),
   ("analogRead", analogRead), ("analogWrite", analogWrite), ("pulseIn", pulseIn),
   ("millis", millis), ("delay", delay), ("delayMicroseconds", delayMicroseconds),
   ("eeread", eeread), ("eewrite", eewrite), ("setBaud", setBaud)]

end BoardConsole.Hardware
