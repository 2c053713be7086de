import BoardConsole.Pins
import Mathlib.Data.Nat.Bitwise

/-!
# Pins — A map from pins to levels

All levels of a bank share one mask, but each pin has a bit of its own (`PinBank.level`).  So a bank
is a map from its pins to levels: a write sets the level of its pin and of no other (`level_written`),
and a read answers the level (`read_of_lt`).  What asks for a pin that is not there fails, whatever
it asks (`error_iff`).
-/

namespace BoardConsole.PinBank

/-- The level of a pin. -/
def level (b : PinBank) (n : Nat) : Bool := b.mask.toNat.testBit n

/-- The bank after a write to a pin; as it was where there is no such pin. -/
def written (b : PinBank) (pin : UInt32) (high : Bool) : PinBank :=
  (b.write pin high).toOption.getD b

@[simp] theorem level_low (count : UInt32) (n : Nat) : (low count).level n = false :=
  Nat.zero_testBit n

theorem count_low_le (count : UInt32) : (low count).count ≤ most := Std.min_le_right

section Bank
variable {b : PinBank} {pin : UInt32}

theorem bit_of_lt (h : pin < b.count) : b.bit pin = .ok ((1 : UInt64) <<< pin.toUInt64) := if_pos h

theorem bit_of_not_lt (h : ¬ pin < b.count) : b.bit pin = .error (.pinOutOfRange pin b.count) :=
  if_neg h

/-- What asks for a pin fails exactly if the bank does not have it. -/
theorem error_iff {α : Type} {f : UInt64 → α} {e : HostError} :
    (b.bit pin).map f = .error e ↔ ¬ pin < b.count ∧ e = .pinOutOfRange pin b.count := by
  by_cases h : pin < b.count
  · simp [bit_of_lt h, h, Except.map]
  · simp [bit_of_not_lt h, h, Except.map, eq_comm]

theorem toNat_bit (hb : b.count ≤ most) (h : pin < b.count) :
    ((1 : UInt64) <<< pin.toUInt64).toNat = 2 ^ pin.toNat := by
  have hlt : pin.toNat < 64 :=
    Nat.lt_of_lt_of_le (UInt32.lt_iff_toNat_lt.mp h) (UInt32.le_iff_toNat_le.mp hb)
  have hpow : 2 ^ pin.toNat < 2 ^ 64 := Nat.pow_lt_pow_right (by decide) hlt
  rw [UInt64.toNat_shiftLeft, UInt32.toNat_toUInt64, Nat.mod_eq_of_lt hlt, UInt64.toNat_one,
    Nat.one_shiftLeft, Nat.mod_eq_of_lt hpow]

/-- A read answers the level of its pin. -/
theorem read_of_lt (hb : b.count ≤ most) (h : pin < b.count) :
    b.read pin = .ok (b.level pin.toNat) := by
  have hbit : (b.mask &&& (1 : UInt64) <<< pin.toUInt64).toNat
      = (b.level pin.toNat).toNat * 2 ^ pin.toNat := by
    rw [UInt64.toNat_and, toNat_bit hb h, Nat.and_two_pow, level]
  have hne : (b.mask &&& (1 : UInt64) <<< pin.toUInt64 != 0) = b.level pin.toNat := by
    rw [Bool.eq_iff_iff, bne_iff_ne, Ne, ← UInt64.toNat_inj, hbit]
    cases b.level pin.toNat <;> simp
  rw [read, bit_of_lt h, Except.map, hne]

/-! ### Writing -/

theorem testBit_of_le (mask : UInt64) {n : Nat} (h : 64 ≤ n) : mask.toNat.testBit n = false :=
  Nat.testBit_lt_two_pow (mask.toNat_lt.trans_le (Nat.pow_le_pow_right (by decide) h))

theorem testBit_not (mask : UInt64) {n : Nat} (h : n < 64) :
    (~~~mask).toNat.testBit n = !mask.toNat.testBit n := by
  have hsub : (~~~mask).toNat = 2 ^ 64 - (mask.toNat + 1) := by
    rw [UInt64.toNat_not, Nat.sub_sub, Nat.add_comm]
    rfl
  rw [hsub, Nat.testBit_two_pow_sub_succ mask.toNat_lt, decide_eq_true h, Bool.true_and]

theorem testBit_set (hb : b.count ≤ most) (h : pin < b.count) (n : Nat) :
    (b.mask ||| (1 : UInt64) <<< pin.toUInt64).toNat.testBit n
      = if n = pin.toNat then true else b.level n := by
  rw [UInt64.toNat_or, toNat_bit hb h, Nat.testBit_or, Nat.testBit_two_pow, level]
  by_cases hn : n = pin.toNat
  · simp [hn]
  · simp [hn, Ne.symm hn]

theorem testBit_clear (hb : b.count ≤ most) (h : pin < b.count) (n : Nat) :
    (b.mask &&& ~~~((1 : UInt64) <<< pin.toUInt64)).toNat.testBit n
      = if n = pin.toNat then false else b.level n := by
  rw [UInt64.toNat_and, Nat.testBit_and, level]
  by_cases hlt : n < 64
  · rw [testBit_not _ hlt, toNat_bit hb h, Nat.testBit_two_pow]
    by_cases hn : n = pin.toNat
    · simp [hn]
    · simp [hn, Ne.symm hn]
  · simp [testBit_of_le b.mask (not_lt.mp hlt)]

/-- **A write sets the level of its pin and of no other.** -/
theorem level_written (hb : b.count ≤ most) (h : pin < b.count) (high : Bool) (n : Nat) :
    (b.written pin high).level n = if n = pin.toNat then high else b.level n := by
  rw [written, write, bit_of_lt h]
  cases high with
  | true  => exact testBit_set hb h n
  | false => exact testBit_clear hb h n

@[simp] theorem count_written (high : Bool) : (b.written pin high).count = b.count := by
  rw [written, write]
  cases b.bit pin <;> rfl

/-- A write to a pin that is not there changes nothing. -/
theorem written_of_not_lt (h : ¬ pin < b.count) (high : Bool) : b.written pin high = b := by
  rw [written, write, bit_of_not_lt h]
  rfl

end Bank

end BoardConsole.PinBank
