import BoardConsole.Time.Timestamp
import Mathlib.Order.Compare

/-!
# Time — What a timestamp stands for

A timestamp stands for a number of nanoseconds (`value`).  The order of normal timestamps is that of
their numbers (`cmp_eq_compare`), a difference is the difference of the numbers, zero where that would
fall below (`value_since`), milliseconds are counted exactly up to the largest word
(`toNat_toMillis`), and carrying excess nanoseconds keeps the number for as long as the seconds fit
(`value_ofParts_eq_iff`).

No word passes its range on the way: a second is borrowed only where the later timestamp has one more
(`borrow_fits`).  This is said of a difference that gives up where an operation would wrap (`since?`).

* `arithmetic_exact`: all of this together.
-/

namespace BoardConsole.Timestamp

/-- The nanoseconds of a timestamp, its seconds included. -/
def value (t : Timestamp) : Nat := t.secs.toNat * Duration.second + t.nanos.toNat

theorem normal_iff {t : Timestamp} : t.Normal ↔ t.nanos.toNat < Duration.second :=
  UInt32.lt_iff_toNat_lt

theorem toNat_nanosPerSecond : nanosPerSecond.toNat = Duration.second := rfl

/-! ### Order -/

section Order
variable {a b : Timestamp}

/-- **The order of normal timestamps is that of their numbers.** -/
theorem cmp_eq_compare (ha : a.Normal) (hb : b.Normal) : a.cmp b = compare a.value b.value := by
  rw [normal_iff] at ha hb
  simp only [value, Duration.second] at *
  -- in each case the seconds decide, as nanoseconds below one second never outweigh them
  cases h : compare (a.secs.toNat * 1000000000 + a.nanos.toNat)
      (b.secs.toNat * 1000000000 + b.nanos.toNat) with
  | lt =>
      rw [Std.compare_eq_lt] at h
      simp only [cmp, Ordering.then_eq_lt, Std.compare_eq_lt, Std.compare_eq_iff_eq,
        ← UInt64.toNat_inj, UInt64.lt_iff_toNat_lt, UInt32.lt_iff_toNat_lt]
      omega
  | eq =>
      rw [Std.compare_eq_iff_eq] at h
      simp only [cmp, Ordering.then_eq_eq, Std.compare_eq_iff_eq, ← UInt64.toNat_inj,
        ← UInt32.toNat_inj]
      omega
  | gt =>
      rw [Std.compare_eq_gt] at h
      simp only [cmp, Ordering.then_eq_gt, Std.compare_eq_gt, Std.compare_eq_iff_eq,
        ← UInt64.toNat_inj, UInt64.lt_iff_toNat_lt, UInt32.lt_iff_toNat_lt]
      omega

theorem isAtMost_iff (ha : a.Normal) (hb : b.Normal) : a.isAtMost b = true ↔ a.value ≤ b.value := by
  rw [isAtMost, bne_iff_ne, cmp_eq_compare ha hb, Nat.compare_ne_gt]

end Order

/-! ### Differences -/

/-- A difference of words, none where it would fall below zero. -/
def minus? {α : Type} [LE α] [DecidableLE α] [Sub α] (a b : α) : Option α :=
  if b ≤ a then some (a - b) else none

/-- A sum of words, none where it would pass the largest word. -/
def plus? (a b : UInt32) : Option UInt32 :=
  if a.toNat + b.toNat < UInt32.size then some (a + b) else none

/-- The time from `earlier` to `t`, none where one of the operations on the way would wrap. -/
def since? (t earlier : Timestamp) : Option Timestamp :=
  if t.isAtMost earlier then some zero
  else if t.nanos < earlier.nanos then do
    let apart ← minus? t.secs earlier.secs
    let secs ← minus? apart 1
    let carried ← plus? nanosPerSecond t.nanos
    let nanos ← minus? carried earlier.nanos
    return ⟨secs, nanos⟩
  else do
    let secs ← minus? t.secs earlier.secs
    let nanos ← minus? t.nanos earlier.nanos
    return ⟨secs, nanos⟩

section Differences
variable {t earlier : Timestamp}

theorem secs_le (ht : t.Normal) (h : earlier.value < t.value) : earlier.secs ≤ t.secs := by
  rw [normal_iff] at ht
  rw [UInt64.le_iff_toNat_le]
  simp only [value, Duration.second] at *
  omega

/-- Where nanoseconds alone would fall below zero, the later timestamp has a second to borrow, and
a second more of nanoseconds fits a word. -/
theorem borrow_fits (ht : t.Normal) (he : earlier.Normal) (h : earlier.value < t.value)
    (hborrow : t.nanos < earlier.nanos) :
    (1 : UInt64) ≤ t.secs - earlier.secs ∧
      nanosPerSecond.toNat + t.nanos.toNat < UInt32.size ∧
      earlier.nanos ≤ nanosPerSecond + t.nanos := by
  have hle := secs_le ht h
  rw [normal_iff] at ht he
  rw [UInt32.lt_iff_toNat_lt] at hborrow
  have hsum : nanosPerSecond.toNat + t.nanos.toNat < UInt32.size := by
    simp only [toNat_nanosPerSecond, Duration.second, UInt32.size] at *
    omega
  refine ⟨?_, hsum, ?_⟩
  -- in one and the same second the nanoseconds would be the later ones as well
  · rw [UInt64.le_iff_toNat_le, UInt64.toNat_sub_of_le _ _ hle, UInt64.toNat_one]
    simp only [value, Duration.second] at *
    omega
  · rw [UInt32.le_iff_toNat_le, UInt32.toNat_add, Nat.mod_eq_of_lt hsum, toNat_nanosPerSecond]
    omega

/-- **No operation on the way to a difference wraps.** -/
theorem since?_eq (ht : t.Normal) (he : earlier.Normal) :
    t.since? earlier = some (t.since earlier) := by
  unfold since? since
  split_ifs with hatMost hborrow
  · rfl
  · rw [isAtMost_iff ht he, Nat.not_le] at hatMost
    obtain ⟨hone, hsum, hnanos⟩ := borrow_fits ht he hatMost hborrow
    simp [minus?, plus?, secs_le ht hatMost, hone, hsum, hnanos]
  · rw [isAtMost_iff ht he, Nat.not_le] at hatMost
    simp [minus?, secs_le ht hatMost, UInt32.not_lt.mp hborrow]

/-- **A difference is exact**, and normal again. -/
theorem value_since (ht : t.Normal) (he : earlier.Normal) :
    (t.since earlier).value = t.value - earlier.value ∧ (t.since earlier).Normal := by
  unfold since
  split_ifs with hatMost hborrow
  · rw [isAtMost_iff ht he] at hatMost
    exact ⟨(Nat.sub_eq_zero_of_le hatMost).symm, by decide⟩
  · rw [isAtMost_iff ht he, Nat.not_le] at hatMost
    obtain ⟨hone, hsum, hnanos⟩ := borrow_fits ht he hatMost hborrow
    rw [UInt64.le_iff_toNat_le] at hone
    simp only [value, normal_iff, UInt64.toNat_sub_of_le _ _ hone,
      UInt64.toNat_sub_of_le _ _ (secs_le ht hatMost), UInt32.toNat_sub_of_le _ _ hnanos,
      UInt32.toNat_add, toNat_nanosPerSecond, UInt32.lt_iff_toNat_lt, UInt64.toNat_one,
      Duration.second] at *
    omega
  · rw [isAtMost_iff ht he, Nat.not_le] at hatMost
    rw [UInt32.not_lt] at hborrow
    simp only [value, normal_iff, UInt64.toNat_sub_of_le _ _ (secs_le ht hatMost),
      UInt32.toNat_sub_of_le _ _ hborrow, UInt32.le_iff_toNat_le, Duration.second] at *
    omega

end Differences

/-! ### Milliseconds -/

/-- **Milliseconds are counted exactly** up to the largest word. -/
theorem toNat_toMillis (t : Timestamp) :
    t.toMillis.toNat = min (t.value / Duration.millisecond) (UInt64.size - 1) := by
  have hmilli : nanosPerMilli.toNat = 1000000 := rfl
  have hthousand : (1000 : UInt64).toNat = 1000 := rfl
  simp only [toMillis, Millis.toNat_plus, Millis.toNat_times, UInt32.toNat_toUInt64,
    UInt32.toNat_div, hmilli, hthousand, value, Duration.second, Duration.millisecond, UInt64.size]
  omega

theorem toMillis_le_toMillis {a b : Timestamp} (h : a.value ≤ b.value) :
    a.toMillis ≤ b.toMillis := by
  have hdiv : a.value / Duration.millisecond ≤ b.value / Duration.millisecond :=
    Nat.div_le_div_right h
  rw [UInt64.le_iff_toNat_le, toNat_toMillis, toNat_toMillis]
  omega

/-! ### Parts -/

section Parts
variable (secs : UInt64) (nanos : UInt32)

theorem normal_ofParts : (ofParts secs nanos).Normal := by
  rw [normal_iff, ofParts, UInt32.toNat_mod, toNat_nanosPerSecond]
  exact Nat.mod_lt _ (by decide)

/-- **Carrying keeps the number** exactly where the seconds fit a word with what is carried. -/
theorem value_ofParts_eq_iff :
    (ofParts secs nanos).value = secs.toNat * Duration.second + nanos.toNat ↔
      secs.toNat + nanos.toNat / Duration.second < UInt64.size := by
  simp only [value, ofParts, Millis.toNat_plus, UInt32.toNat_toUInt64, UInt32.toNat_div,
    UInt32.toNat_mod, toNat_nanosPerSecond, Duration.second, UInt64.size]
  omega

end Parts

/-- **The arithmetic of timestamps is exact and does not wrap.**

Normal timestamps are ordered as the numbers they stand for.  A difference is normal, stands for the
difference of the numbers, zero where that would fall below, and no operation on the way to it wraps.
Milliseconds are counted exactly up to the largest word, so they never fall where time does not.
What is made of seconds and nanoseconds is normal, and stands for their number exactly where the
seconds fit a word with what is carried. -/
theorem arithmetic_exact {a b : Timestamp} (ha : a.Normal) (hb : b.Normal) :
    a.cmp b = compare a.value b.value ∧
    (a.since? b = some (a.since b) ∧ (a.since b).Normal ∧
      (a.since b).value = a.value - b.value) ∧
    a.toMillis.toNat = min (a.value / Duration.millisecond) (UInt64.size - 1) ∧
    (a.isAtMost b → a.toMillis ≤ b.toMillis) ∧
    ∀ secs nanos, (ofParts secs nanos).Normal ∧
      ((ofParts secs nanos).value = secs.toNat * Duration.second + nanos.toNat ↔
        secs.toNat + nanos.toNat / Duration.second < UInt64.size) := by
  obtain ⟨hvalue, hnormal⟩ := value_since ha hb
  exact ⟨cmp_eq_compare ha hb, ⟨since?_eq ha hb, hnormal, hvalue⟩, toNat_toMillis a,
    fun h => toMillis_le_toMillis ((isAtMost_iff ha hb).mp h),
    fun secs nanos => ⟨normal_ofParts secs nanos, value_ofParts_eq_iff secs nanos⟩⟩

/-- The largest second and a borrow. -/
theorem arithmetic_exact_borrow :
    let a : Timestamp := ⟨0xFFFFFFFFFFFFFFFF, 0⟩
    let b : Timestamp := ⟨0, 999999999⟩
    a.Normal ∧ b.Normal ∧ a.since? b = some ⟨0xFFFFFFFFFFFFFFFE, 1⟩ ∧
      (a.since b).value = (UInt64.size - 1) * Duration.second - 999999999 ∧
      a.toMillis.toNat = UInt64.size - 1 := by
  intro a b
  have ha : a.Normal := by decide
  have hb : b.Normal := by decide
  obtain ⟨-, ⟨hsince, -, hvalue⟩, hmillis, -⟩ := arithmetic_exact ha hb
  exact ⟨ha, hb, hsince.trans (by decide), hvalue.trans (by decide +kernel),
    hmillis.trans (by decide +kernel)⟩

end BoardConsole.Timestamp
