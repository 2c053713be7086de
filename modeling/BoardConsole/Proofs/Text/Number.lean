import BoardConsole.Text.Number
import Mathlib

/-!
# Text — Numbers written in digits

* `nat?_toDigits`: in any radix up to sixteen, the digits that a number is written with are read as
  that number.
* `nat?_eq_some_iff`: what is read as a number is at least one digit of the radix, and the digits
  count as their places say (`Writes`).
-/

namespace BoardConsole.Text

variable {radix : Nat}

theorem digitValue_digitChar {d : Nat} (h : d < 16) : digitValue d.digitChar = d := by
  interval_cases d <;> decide

theorem exists_digitChar (hlow : 1 < radix) {n : Nat} {c : Char} (h : c ∈ Nat.toDigits radix n) :
    ∃ d < radix, c = d.digitChar := by
  induction n using Nat.strong_induction_on with
  | _ n ih =>
      rw [Nat.toDigits_eq_if hlow] at h
      split at h
      · rename_i hn
        exact ⟨n, hn, List.mem_singleton.mp h⟩
      · rcases List.mem_append.mp h with h | h
        · exact ih _ (Nat.div_lt_self (by omega) hlow) h
        · exact ⟨n % radix, Nat.mod_lt _ (by omega), List.mem_singleton.mp h⟩

/-- A decimal number begins with a digit, and digits follow. -/
theorem exists_cons_toDigits (n : Nat) :
    ∃ c ds, Nat.toDigits 10 n = c :: ds ∧ c.isDigit = true ∧ ∀ d ∈ ds, d.isDigit = true := by
  have hdigits : ∀ c ∈ Nat.toDigits 10 n, c.isDigit = true :=
    fun c hc => Nat.isDigit_of_mem_toDigits (by decide) (by decide) hc
  obtain ⟨c, ds, h⟩ := List.exists_cons_of_ne_nil (Nat.toDigits_ne_nil (n := n) (b := 10))
  rw [h, List.forall_mem_cons] at hdigits
  exact ⟨c, ds, h, hdigits⟩

theorem ofDigits_concat (cs : List Char) (c : Char) :
    ofDigits radix (cs ++ [c]) = ofDigits radix cs * radix + digitValue c := by
  rw [ofDigits, List.foldl_append]
  rfl

theorem ofDigits_toDigits (hlow : 1 < radix) (hhigh : radix ≤ 16) (n : Nat) :
    ofDigits radix (Nat.toDigits radix n) = n := by
  induction n using Nat.strong_induction_on with
  | _ n ih =>
      rw [Nat.toDigits_eq_if hlow]
      split
      · rename_i hn
        rw [← List.nil_append [_], ofDigits_concat, digitValue_digitChar (by omega)]
        simp [ofDigits]
      · have hlast : n % radix < radix := Nat.mod_lt _ (by omega)
        rw [ofDigits_concat, ih _ (Nat.div_lt_self (by omega) hlow),
          digitValue_digitChar (by omega), Nat.div_add_mod']

/-- **The digits of a number are read as the number.** -/
theorem nat?_toDigits (hlow : 1 < radix) (hhigh : radix ≤ 16) (n : Nat) :
    nat? radix (Nat.toDigits radix n) = some n := by
  have hdigits : (Nat.toDigits radix n).all (isDigit radix) = true := by
    rw [List.all_eq_true]
    intro c hc
    obtain ⟨d, hd, rfl⟩ := exists_digitChar hlow hc
    rw [isDigit, digitValue_digitChar (by omega), decide_eq_true_iff]
    exact hd
  simp [nat?, hdigits, Nat.toDigits_ne_nil, ofDigits_toDigits hlow hhigh]

/-! ### Digits and places -/

/-- The digits, the most significant first, write the number in the radix: each is the sign of a
value below the radix, a letter in either case, and counts as its place says. -/
def Writes (radix : Nat) (digits : List Char) (n : Nat) : Prop :=
  ∃ values : List Nat, List.Forall₂ (fun c d => d < radix ∧ c.toLower = d.digitChar) digits values ∧
    n = Nat.ofDigits radix values.reverse

/-- Zeros in front count nothing. -/
theorem Writes.zeros (hradix : 0 < radix) (zeros : Nat) {digits : List Char} {n : Nat}
    (h : Writes radix digits n) : Writes radix (List.replicate zeros '0' ++ digits) n := by
  obtain ⟨values, hvalues, rfl⟩ := h
  refine ⟨List.replicate zeros 0 ++ values, List.rel_append ?_ hvalues, ?_⟩
  · rw [List.forall₂_iff_get]
    simp [hradix]
  · rw [List.reverse_append, List.reverse_replicate, Nat.ofDigits_append,
      Nat.ofDigits_replicate_zero, Nat.mul_zero, Nat.add_zero]

/-- A digit has the value that it is the sign of, in either case. -/
theorem digitValue_eq_iff {c : Char} {d : Nat} (h : d < 16) :
    digitValue c = d ↔ c.toLower = d.digitChar := by
  have hsmall : ∀ n < 123, ∀ d < 16,
      digitValue (Char.ofNat n) = d ↔ (Char.ofNat n).toLower = d.digitChar := by
    decide +kernel
  rcases Nat.lt_or_ge c.toNat 123 with hc | hc
  · simpa using hsmall c.toNat hc d h
  · -- behind the last letter there is no digit, and no letter of the upper case
    have hlast : ∀ last : Char, last.toNat < 123 → ¬ c ≤ last := fun last hlt hle => by
      rw [Char.le_def, UInt32.le_iff_toNat_le] at hle
      exact absurd (Nat.le_trans hc hle) (Nat.not_le.mpr hlt)
    have hvalue : digitValue c = 36 := by
      simp [digitValue, hlast '9' (by decide), hlast 'z' (by decide), hlast 'Z' (by decide)]
    have hlower : c.toLower = c := by
      rw [Char.toLower, dif_neg fun hup => hlast 'Z' (by decide) hup.2]
    have hsign : c ≠ d.digitChar := by
      rintro rfl
      exact absurd (digitValue_digitChar h) (by omega)
    simp only [hvalue, hlower, hsign, iff_false]
    omega

theorem forall₂_digits_iff (hradix : radix ≤ 16) {cs : List Char} {values : List Nat} :
    List.Forall₂ (fun c d => d < radix ∧ c.toLower = d.digitChar) cs values ↔
      cs.all (isDigit radix) ∧ values = cs.map digitValue := by
  induction cs generalizing values with
  | nil => simp
  | cons c cs ih =>
      have hdigit : ∀ d, (d < radix ∧ c.toLower = d.digitChar) ↔
          isDigit radix c ∧ d = digitValue c := by
        intro d
        rw [isDigit, decide_eq_true_iff]
        constructor
        · rintro ⟨hlt, hlower⟩
          have hvalue := (digitValue_eq_iff (by omega)).mpr hlower
          exact ⟨hvalue ▸ hlt, hvalue.symm⟩
        · rintro ⟨hlt, rfl⟩
          exact ⟨hlt, (digitValue_eq_iff (by omega)).mp rfl⟩
      rw [List.forall₂_cons_left_iff]
      simp only [hdigit, ih, List.all_cons, Bool.and_eq_true, List.map_cons]
      constructor
      · rintro ⟨d, ds, ⟨hc, rfl⟩, ⟨hcs, rfl⟩, rfl⟩
        exact ⟨⟨hc, hcs⟩, rfl⟩
      · rintro ⟨⟨hc, hcs⟩, rfl⟩
        exact ⟨_, _, ⟨hc, rfl⟩, ⟨hcs, rfl⟩, rfl⟩

theorem ofDigits_eq (cs : List Char) :
    ofDigits radix cs = Nat.ofDigits radix (cs.map digitValue).reverse := by
  induction cs using List.reverseRecOn with
  | nil => rfl
  | append_singleton cs c ih =>
      rw [ofDigits_concat, ih, List.map_append, List.map_singleton, List.reverse_append,
        List.reverse_singleton, List.singleton_append, Nat.ofDigits_cons]
      ring

theorem writes_iff (hradix : radix ≤ 16) {digits : List Char} {n : Nat} :
    Writes radix digits n ↔ digits.all (isDigit radix) ∧ ofDigits radix digits = n := by
  simp only [Writes, forall₂_digits_iff hradix, ofDigits_eq, and_assoc, exists_and_left,
    exists_eq_left, @eq_comm Nat n]

/-- **What is read as a number is digits that write it**, at least one. -/
theorem nat?_eq_some_iff (hradix : radix ≤ 16) {cs : List Char} {n : Nat} :
    nat? radix cs = some n ↔ cs ≠ [] ∧ Writes radix cs n := by
  simp only [nat?, writes_iff hradix, Option.ite_none_right_eq_some, Bool.and_eq_true,
    Bool.not_eq_true', List.isEmpty_eq_false_iff, Option.some.injEq, and_assoc, ne_eq]

end BoardConsole.Text
