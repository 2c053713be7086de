/-!
# Time — Saturating words

Milliseconds are counted in 64-bit words. Sums and products that would pass the largest word stop
there, so a reading or a due time never wraps round to an early one.
-/

namespace BoardConsole

/-- Milliseconds, as a 64-bit word. -/
abbrev Millis := UInt64

namespace Millis

/-- The largest count of milliseconds. -/
def largest : Millis := 0xFFFFFFFFFFFFFFFF

/-- The word for a natural number, or the largest word where it does not fit. -/
def clamp (n : Nat) : Millis :=
  if n < UInt64.size then UInt64.ofNat n else largest

/-- The sum, stopping at the largest word. -/
def plus (a b : Millis) : Millis :=
  clamp (a.toNat + b.toNat)

/-- The product, stopping at the largest word. -/
def times (a b : Millis) : Millis :=
  clamp (a.toNat * b.toNat)

/-- The difference, stopping at zero. -/
def minus (a b : Millis) : Millis :=
  if b ≤ a then a - b else 0

theorem toNat_clamp (n : Nat) : (clamp n).toNat = min n (UInt64.size - 1) := by
  unfold clamp
  split
  · rename_i h
    rw [UInt64.toNat_ofNat_of_lt' h]
    omega
  · rename_i h
    have : largest.toNat = UInt64.size - 1 := rfl
    omega

theorem toNat_plus (a b : Millis) :
    (plus a b).toNat = min (a.toNat + b.toNat) (UInt64.size - 1) :=
  toNat_clamp _

theorem le_plus (a b : Millis) : a ≤ plus a b := by
  have := UInt64.toNat_lt_size a
  rw [UInt64.le_iff_toNat_le, toNat_plus]
  omega

theorem toNat_times (a b : Millis) :
    (times a b).toNat = min (a.toNat * b.toNat) (UInt64.size - 1) :=
  toNat_clamp _

theorem toNat_minus (a b : Millis) : (minus a b).toNat = a.toNat - b.toNat := by
  unfold minus
  split
  · rename_i h
    exact UInt64.toNat_sub_of_le _ _ h
  · rename_i h
    have : ¬ b.toNat ≤ a.toNat := fun k => h (UInt64.le_iff_toNat_le.2 k)
    show (0 : UInt64).toNat = _
    have : (0 : UInt64).toNat = 0 := rfl
    omega

end Millis

end BoardConsole
