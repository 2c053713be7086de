import BoardConsole.Proofs.Text.Number
import BoardConsole.Time.DurationText

/-!
# Time — Durations in words, read back

* `ofText_text`: a duration whose seconds fit a word is read back from the words for it.

A blank behind a part adds the part to the sum, so the parts that a duration is written with add up
to it one after the other (`Adds`, `adds_parts`).  Behind the last part, the end of the text does
what a blank would do (`finish_blank`).
-/

namespace BoardConsole.Duration
open Text (digitValue isBlank ofDigits ofDigits_toDigits exists_cons_toDigits)

/-! ### Sums -/

theorem ok_bind {ε α β : Type} (a : α) (f : α → Except ε β) : (Except.ok a >>= f) = f a := rfl

@[simp] theorem zero_plus (d : Duration) : zero.plus d = d := by simp [zero, plus]

theorem plus_assoc (a b c : Duration) : (a.plus b).plus c = a.plus (b.plus c) := by
  simp [plus, Nat.add_assoc]

theorem fits_of_plus {a b : Duration} (h : (a.plus b).fits = true) : a.fits = true := by
  simp only [fits, secs, plus] at h ⊢
  exact decide_eq_true (Nat.lt_of_le_of_lt (Nat.div_le_div_right (Nat.le_add_right _ _))
    (of_decide_eq_true h))

theorem word?_of_lt {n : Nat} (h : n < UInt64.size) : word? n = some n := if_pos h

/-- An amount with less than a second of nanoseconds is added where the sum fits. -/
theorem addAmount_eq {d : Duration} {amount : Amount} (hnanos : amount.2 < second)
    (hfits : (d.plus (ofParts amount.1 amount.2)).fits = true) :
    d.addAmount amount = .ok (d.plus (ofParts amount.1 amount.2)) := by
  have hsub : d.subsecNanos < second := Nat.mod_lt _ (by decide)
  -- Two parts of a second are far below the largest word.
  have hword : d.subsecNanos + amount.2 < UInt64.size := by
    have : second + second < UInt64.size := by decide
    omega
  rw [addAmount, word?_of_lt hword]
  simp only [orMalformed, ok_bind, hfits, if_true]

/-- A whole number of units is added where the sum fits. -/
theorem addUnits_eq {d : Duration} {n : Nat} {letters : List Char} {unit : TimeUnit}
    {amount : Amount} (hunit : unit? (String.ofList letters.reverse) = some unit)
    (htimes : unit.whole.times? n = some amount) (hnanos : amount.2 < second)
    (hfits : (d.plus (ofParts amount.1 amount.2)).fits = true) :
    d.addUnits ⟨n, 0, 1⟩ letters = .ok (d.plus (ofParts amount.1 amount.2)) := by
  rw [addUnits, hunit]
  simp only [orMalformed, ok_bind, htimes, addAmount_eq hnanos hfits, if_true]

/-! ### One part -/

/-- The number that digits after `k` make of it. -/
def moreDigits (k : Nat) (ds : List Char) : Nat := ds.foldl (fun n c => n * 10 + digitValue c) k

theorem le_moreDigits (k : Nat) (ds : List Char) : k ≤ moreDigits k ds := by
  induction ds generalizing k with
  | nil => exact Nat.le_refl _
  | cons c ds ih => exact Nat.le_trans (by omega) (ih (k * 10 + digitValue c))

theorem foldlM_moreDigits {ds : List Char} (hds : ∀ c ∈ ds, c.isDigit = true)
    (sum : Option Duration) {k : Nat} (h : moreDigits k ds < UInt64.size) :
    ds.foldlM advance (.inWhole k, sum) = .ok (.inWhole (moreDigits k ds), sum) := by
  induction ds generalizing k with
  | nil => rfl
  | cons c ds ih =>
      rw [List.forall_mem_cons] at hds
      -- What has been read never passes the whole number, so each word fits.
      have hk : k * 10 + digitValue c < UInt64.size :=
        Nat.lt_of_le_of_lt (le_moreDigits _ ds) h
      have hstep : advance (.inWhole k, sum) c = .ok (.inWhole (k * 10 + digitValue c), sum) := by
        simp only [advance, hds.1, if_true, digit, word?_of_lt hk, orMalformed, Except.map]
      rw [List.foldlM_cons, hstep, ok_bind]
      exact ih hds.2 h

theorem foldlM_toDigits {n : Nat} (hn : n < UInt64.size) (sum : Option Duration) :
    (Nat.toDigits 10 n).foldlM advance (.between, sum) = .ok (.inWhole n, sum) := by
  obtain ⟨c, ds, h, hc, hds⟩ := exists_cons_toDigits n
  have hvalue : moreDigits (digitValue c) ds = n := by
    have hof : ofDigits 10 (Nat.toDigits 10 n) = n := ofDigits_toDigits (by decide) (by decide) n
    rw [h, ofDigits, List.foldl_cons, Nat.zero_mul, Nat.zero_add] at hof
    exact hof
  have hstep : advance (.between, sum) c = .ok (.inWhole (digitValue c), sum) := by
    simp only [advance, hc, if_true]
  rw [h, List.foldlM_cons, hstep, ok_bind, foldlM_moreDigits hds sum (by rwa [hvalue]), hvalue]

theorem toNat_of_isUnitChar {c : Char} (h : isUnitChar c = true) :
    65 ≤ c.toNat ∧ c.toNat ≤ 90 ∨ 97 ≤ c.toNat ∧ c.toNat ≤ 122 ∨ c.toNat = 181 := by
  simp only [isUnitChar, Char.isAlpha, Char.isUpper, Char.isLower, Bool.or_eq_true,
    Bool.and_eq_true, decide_eq_true_eq, beq_iff_eq, ge_iff_le, UInt32.le_iff_toNat_le] at h
  rcases h with (h | h) | rfl
  · exact .inl h
  · exact .inr (.inl h)
  · exact .inr (.inr rfl)

theorem isDigit_of_isUnitChar {c : Char} (h : isUnitChar c = true) : c.isDigit = false := by
  have hc := toNat_of_isUnitChar h
  refine Bool.eq_false_iff.2 fun hdigit => ?_
  have hrange : 48 ≤ c.toNat ∧ c.toNat ≤ 57 := Char.isDigit_iff_toNat.1 hdigit
  omega

theorem isBlank_of_isUnitChar {c : Char} (h : isUnitChar c = true) : isBlank c = false := by
  have hc := toNat_of_isUnitChar h
  refine Bool.eq_false_iff.2 fun hblank => ?_
  simp only [isBlank, Bool.or_eq_true, Bool.and_eq_true, decide_eq_true_eq, beq_iff_eq] at hblank
  omega

theorem foldlM_letters {cs : List Char} (hcs : ∀ c ∈ cs, isUnitChar c = true) (f : Figure)
    (letters : List Char) (sum : Option Duration) :
    cs.foldlM advance (.inUnit f letters, sum) = .ok (.inUnit f (cs.reverse ++ letters), sum) := by
  induction cs generalizing letters with
  | nil => rfl
  | cons c cs ih =>
      rw [List.forall_mem_cons] at hcs
      have hstep : advance (.inUnit f letters, sum) c = .ok (.inUnit f (c :: letters), sum) := by
        simp only [advance, hcs.1, if_true]
      rw [List.foldlM_cons, hstep, ok_bind, ih hcs.2, List.reverse_cons, List.append_assoc]
      rfl

/-- A name in letters of a unit, and how much time one of the unit is. -/
structure Names (name : String) (m : Measure) : Prop where
  nonempty : name.toList ≠ []
  letters  : name.toList.all isUnitChar = true
  unit     : (unit? name).map (·.whole) = some m

theorem foldlM_part {name : String} {m : Measure} (hname : Names name m) {n : Nat}
    (hn : n < UInt64.size) (sum : Option Duration) :
    (toString n ++ name).toList.foldlM advance (.between, sum)
      = .ok (.inUnit ⟨n, 0, 1⟩ name.toList.reverse, sum) := by
  obtain ⟨c, cs, hcs⟩ := List.exists_cons_of_ne_nil hname.nonempty
  have hletters := List.all_eq_true.1 hname.letters
  rw [hcs, List.forall_mem_cons] at hletters
  have hfirst : advance (.inWhole n, sum) c = .ok (.inUnit ⟨n, 0, 1⟩ [c], sum) := by
    simp [advance, isDigit_of_isUnitChar hletters.1, isBlank_of_isUnitChar hletters.1, hletters.1]
  have hdigits : (toString n).toList = Nat.toDigits 10 n := Nat.toList_repr
  rw [String.toList_append, List.foldlM_append, hdigits, foldlM_toDigits hn, ok_bind, hcs,
    List.foldlM_cons, hfirst, ok_bind, foldlM_letters hletters.2, List.reverse_cons]

/-- A blank ends a part. -/
theorem advance_blank (f : Figure) (letters : List Char) (sum : Option Duration) :
    advance (.inUnit f letters, sum) ' '
      = ((sum.getD zero).addUnits f letters).map fun d => (.between, some d) := rfl

/-! ### Parts one after the other -/

/-- Reading the parts, each with a blank behind it, adds `a` to the sum. -/
def Adds (parts : List String) (a : Duration) : Prop :=
  ∀ sum : Option Duration, ((sum.getD zero).plus a).fits = true →
    ∃ sum', (parts.flatMap fun p => p.toList ++ [' ']).foldlM advance (.between, sum)
        = .ok (.between, sum') ∧ sum'.getD zero = (sum.getD zero).plus a

theorem adds_nil : Adds [] zero := fun sum _ => ⟨sum, rfl, rfl⟩

theorem adds_append {ps qs : List String} {a b : Duration} (hp : Adds ps a) (hq : Adds qs b) :
    Adds (ps ++ qs) (a.plus b) := by
  intro sum hfits
  rw [← plus_assoc] at hfits ⊢
  obtain ⟨sum₁, hread₁, hsum₁⟩ := hp sum (fits_of_plus hfits)
  obtain ⟨sum₂, hread₂, hsum₂⟩ := hq sum₁ (hsum₁ ▸ hfits)
  refine ⟨sum₂, ?_, by rw [hsum₂, hsum₁]⟩
  rw [List.flatMap_append, List.foldlM_append, hread₁, ok_bind, hread₂]

/-- One part adds its units, where the number is not zero; a zero is not written. -/
theorem adds_part {name : String} {m : Measure} (hname : Names name m) {n : Nat}
    (hn : n < UInt64.size) (amount : Amount) (htimes : m.times? n = some amount)
    (hnanos : amount.2 < second) (hzero : n = 0 → amount = (0, 0)) :
    Adds (part n name) (ofParts amount.1 amount.2) := by
  rw [part]
  split
  next h =>
    rw [hzero h]
    exact adds_nil
  next h =>
    intro sum hfits
    refine ⟨some ((sum.getD zero).plus (ofParts amount.1 amount.2)), ?_, rfl⟩
    obtain ⟨unit, hunit, rfl⟩ := Option.map_eq_some_iff.1 hname.unit
    have hadd : (sum.getD zero).addUnits ⟨n, 0, 1⟩ name.toList.reverse
        = .ok ((sum.getD zero).plus (ofParts amount.1 amount.2)) :=
      addUnits_eq (by rwa [List.reverse_reverse, String.ofList_toList]) htimes hnanos hfits
    rw [List.flatMap_singleton, List.foldlM_append, foldlM_part hname hn, ok_bind,
      List.foldlM_cons, advance_blank, hadd]
    rfl

theorem adds_secs {name : String} {each : Nat} (hname : Names name (.secs each)) (heach : 0 < each)
    {n : Nat} (hn : n * each < UInt64.size) : Adds (part n name) ⟨n * (each * second)⟩ := by
  have hpart := adds_part hname (Nat.lt_of_le_of_lt (Nat.le_mul_of_pos_right n heach) hn)
    (n * each, 0) (by rw [Measure.times?, word?_of_lt hn]; rfl) (show 0 < second by decide)
    (by rintro rfl; rw [Nat.zero_mul])
  rwa [ofParts, Nat.add_zero, Nat.mul_assoc] at hpart

theorem adds_counted {name : String} {each : Nat} (hone : Names name (.secs each))
    (hmany : Names (name ++ "s") (.secs each)) (heach : 0 < each) {n : Nat}
    (hn : n * each < UInt64.size) : Adds (counted n name) ⟨n * (each * second)⟩ := by
  rw [counted]
  split
  · exact adds_secs hmany heach hn
  · exact adds_secs hone heach hn

theorem adds_nanos {name : String} {each : Nat} (hname : Names name (.nanos each))
    (heach : 0 < each) {n : Nat} (hn : n * each < second) : Adds (part n name) ⟨n * each⟩ := by
  have hword : n * each < UInt64.size := Nat.lt_trans hn (by decide)
  have hpart := adds_part hname (Nat.lt_of_le_of_lt (Nat.le_mul_of_pos_right n heach) hword)
    (0, n * each) (by rw [Measure.times?, word?_of_lt hword]; rfl) hn
    (by rintro rfl; rw [Nat.zero_mul])
  rwa [ofParts, Nat.zero_mul, Nat.zero_add] at hpart

/-- A duration is the sum of its parts. -/
theorem sum_parts (d : Duration) :
    ((((((((Duration.mk (d.secs / year * (year * second))).plus
      ⟨d.secs % year / month * (month * second)⟩).plus
      ⟨d.secs % year % month / 86400 * (86400 * second)⟩).plus
      ⟨d.secs % year % month % 86400 / 3600 * (3600 * second)⟩).plus
      ⟨d.secs % year % month % 86400 % 3600 / 60 * (60 * second)⟩).plus
      ⟨d.secs % year % month % 86400 % 60 * (1 * second)⟩).plus
      ⟨d.subsecNanos / 1000000 * 1000000⟩).plus
      ⟨d.subsecNanos / 1000 % 1000 * 1000⟩).plus
      ⟨d.subsecNanos % 1000 * 1⟩ = d := by
  obtain ⟨nanos⟩ := d
  simp only [plus, secs, subsecNanos, year, month, second, Duration.mk.injEq]
  omega

/-- **The parts that a duration is written with** add up to it. -/
theorem adds_parts {d : Duration} (h : d.fits = true) : Adds d.parts d := by
  have hsecs : d.secs < UInt64.size := of_decide_eq_true h
  have hsub : d.subsecNanos < second := Nat.mod_lt _ (by decide)
  have hle : ∀ {n : Nat} (each : Nat), n ≤ d.secs → n / each * each < UInt64.size :=
    fun each hn => Nat.lt_of_le_of_lt (Nat.le_trans (Nat.div_mul_le_self _ each) hn) hsecs
  have hyear : d.secs % year ≤ d.secs := Nat.mod_le _ _
  have hmonth : d.secs % year % month ≤ d.secs := Nat.le_trans (Nat.mod_le _ _) hyear
  have hday : d.secs % year % month % 86400 ≤ d.secs := Nat.le_trans (Nat.mod_le _ _) hmonth
  have hhour : d.secs % year % month % 86400 % 3600 ≤ d.secs := Nat.le_trans (Nat.mod_le _ _) hday
  have years : Adds (counted _ "year") _ := adds_counted ⟨by decide, rfl, rfl⟩
    ⟨by decide, rfl, rfl⟩ (by decide) (hle year (Nat.le_refl _))
  have months : Adds (counted _ "month") _ := adds_counted ⟨by decide, rfl, rfl⟩
    ⟨by decide, rfl, rfl⟩ (by decide) (hle month hyear)
  have days : Adds (counted _ "day") _ := adds_counted ⟨by decide, rfl, rfl⟩
    ⟨by decide, rfl, rfl⟩ (by decide) (hle 86400 hmonth)
  have hours : Adds (part _ "h") _ :=
    adds_secs ⟨by decide, rfl, rfl⟩ (by decide) (hle 3600 hday)
  have minutes : Adds (part _ "m") _ :=
    adds_secs ⟨by decide, rfl, rfl⟩ (by decide) (hle 60 hhour)
  have seconds : Adds (part _ "s") _ :=
    adds_secs ⟨by decide, rfl, rfl⟩ (by decide) (hle 1 (Nat.le_trans (Nat.mod_le _ 60) hday))
  have millis : Adds (part (d.subsecNanos / 1000000) "ms") _ :=
    adds_nanos ⟨by decide, rfl, rfl⟩ (by decide)
      (Nat.lt_of_le_of_lt (Nat.div_mul_le_self _ 1000000) hsub)
  have micros : Adds (part (d.subsecNanos / 1000 % 1000) "us") _ :=
    adds_nanos ⟨by decide, rfl, rfl⟩ (by decide) (by rw [second]; omega)
  have nanos : Adds (part (d.subsecNanos % 1000) "ns") _ :=
    adds_nanos ⟨by decide, rfl, rfl⟩ (by decide) (by rw [second]; omega)
  have hall := adds_append (adds_append (adds_append (adds_append (adds_append (adds_append
    (adds_append (adds_append years months) days) hours) minutes) seconds) millis) micros) nanos
  rw [Nat.div_one, sum_parts d] at hall
  exact hall

/-! ### The whole text -/

/-- What the end of a text makes of the reading. -/
def finish : Stage × Option Duration → Except TextFault Duration
  | (.between, sum)          => orMalformed sum
  | (.inUnit f letters, sum) => (sum.getD zero).addUnits f letters
  | (.inWhole _, _)          => .error .malformed
  | (.inFraction _, _)       => .error .malformed

theorem ofText_eq {s : String} (h : s ≠ "0") :
    ofText s = s.toList.foldlM advance (.between, none) >>= finish := by
  rw [ofText, if_neg h]
  refine congrArg _ (funext fun state => ?_)
  obtain ⟨stage, sum⟩ := state
  cases stage <;> rfl

theorem finish_blank (state : Stage × Option Duration) :
    advance state ' ' >>= finish = finish state := by
  obtain ⟨stage, sum⟩ := state
  cases stage with
  | between => rfl
  | inWhole n => rfl
  | inFraction f => rfl
  | inUnit f letters =>
      rw [advance_blank]
      cases h : (sum.getD zero).addUnits f letters <;> simp only [finish, h] <;> rfl

/-- A blank behind the last part stands where the others have theirs. -/
theorem intercalate_append_blank {parts : List String} (h : parts ≠ []) :
    (" ".intercalate parts).toList ++ [' '] = parts.flatMap fun p => p.toList ++ [' '] := by
  rw [String.toList_intercalate]
  induction parts with
  | nil => exact absurd rfl h
  | cons p ps ih =>
      cases ps with
      | nil => simp
      | cons q ps =>
          rw [List.flatMap_cons, ← ih (by simp), List.map_cons, List.map_cons,
            List.intercalate_cons_cons, ← List.map_cons]
          simp only [List.append_assoc]
          rfl

/-- **A duration is read back** from the words for it. -/
theorem ofText_text {d : Duration} (h : d.fits = true) : ofText d.text = .ok d := by
  rw [text]
  split
  next hzero =>
    obtain ⟨nanos⟩ := d
    obtain rfl : nanos = 0 := beq_iff_eq.1 hzero
    rfl
  next hzero =>
    obtain ⟨sum, hread, hsum⟩ := adds_parts h none (by simpa using h)
    rw [Option.getD_none, zero_plus] at hsum
    obtain rfl : sum = some d := by
      cases sum with
      | none => exact absurd (hsum ▸ rfl) hzero
      | some d' => exact congrArg some hsum
    -- Neither no part at all nor a bare zero leaves a sum behind.
    have hparts : d.parts ≠ [] := by
      intro hnil
      rw [hnil] at hread
      exact nomatch hread
    rw [← intercalate_append_blank hparts] at hread
    have htext : " ".intercalate d.parts ≠ "0" := by
      intro h0
      rw [h0] at hread
      exact nomatch hread
    rw [List.foldlM_append] at hread
    rw [ofText_eq htext]
    cases hlast : (" ".intercalate d.parts).toList.foldlM advance (.between, none) with
    | error fault =>
        rw [hlast] at hread
        exact nomatch hread
    | ok state =>
        simp only [hlast, ok_bind, List.foldlM_cons, List.foldlM_nil, bind_pure] at hread
        rw [ok_bind, ← finish_blank, hread]
        rfl

end BoardConsole.Duration
