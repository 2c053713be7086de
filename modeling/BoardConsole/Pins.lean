import BoardConsole.Error

/-!
# Pins — The digital pins

Up to 64 pins, each one bit of a mask: written by one call, read back by another. Reading, writing
and setting the mode of a pin that the bank does not have fail. Analog, pulse and serial calls are
stubs that answer the same whatever they are asked.
-/

namespace BoardConsole

/-- A bank of digital pins. -/
structure PinBank where
  count : UInt32
  /-- Bit `n` is the level of pin `n`. -/
  mask  : UInt64
deriving DecidableEq, Repr

namespace PinBank

/-- The most pins that a bank can hold. -/
def most : UInt32 := 64

/-- A bank of `count` pins, at most 64, all low. -/
def low (count : UInt32) : PinBank := ⟨min count most, 0⟩

/-- The bit of a pin of the bank. -/
def bit (b : PinBank) (pin : UInt32) : Except HostError UInt64 :=
  if pin < b.count then .ok ((1 : UInt64) <<< pin.toUInt64)
  else .error (.pinOutOfRange pin b.count)

/-- Checks the pin; its direction is not kept. -/
def setMode (b : PinBank) (pin : UInt32) : Except HostError Unit :=
  (b.bit pin).map fun _ => ()

/-- Sets or clears a pin. -/
def write (b : PinBank) (pin : UInt32) (high : Bool) : Except HostError PinBank :=
  (b.bit pin).map fun bit =>
    { b with mask := if high then b.mask ||| bit else b.mask &&& ~~~bit }

/-- The level last written to a pin. -/
def read (b : PinBank) (pin : UInt32) : Except HostError Bool :=
  (b.bit pin).map fun bit => b.mask &&& bit != 0

/-- What every analog and pulse reading answers. -/
def stubReading : Int32 := 0

/-- How many characters wait on the serial line. -/
def serialAvailable : Int32 := 0

/-- The character that the serial line reads. -/
def serialChar : UInt8 := 0x24

/-- What setting the rate of the serial line answers. -/
def baudReply : Int32 := 0

end PinBank

end BoardConsole
