import BoardConsole.Proofs.Text.Utf8

/-!
# Text — Cut and malformed UTF-8

What reading makes of bytes that need not be those of a text.

* `length_decodeChars_le`: no more characters than bytes.
* `mem_of_mem_decodeChars`: a character below `80` is read only where its byte stands.
* `decodeChars_of_prefix`: of the bytes of a text that is cut off somewhere, the whole characters
  are read, and nothing but U+FFFD after them.
-/

namespace BoardConsole.Text.Utf8

theorem length_decodeChars_le (bytes : List UInt8) : (decodeChars bytes).length ≤ bytes.length := by
  induction bytes using decodeChars.induct with
  | case1 => simp [decodeChars]
  | case2 b rest ih =>
      have hrest := length_first b rest
      rw [decodeChars, List.length_cons, List.length_cons]
      omega

/-! ### Characters below `80` -/

theorem complete_cases (code : Nat) (ranges : List Range) (rest : List UInt8) :
    (complete code ranges rest).1 = replacement ∨
      ∃ tail, Fits ranges tail ∧ (complete code ranges rest).1 = Char.ofNat (codeOf code tail) := by
  induction ranges generalizing code rest with
  | nil => exact .inr ⟨[], .nil, rfl⟩
  | cons range more ih =>
      cases rest with
      | nil => exact .inl rfl
      | cons b rest =>
          rw [complete]
          by_cases hb : range.1 ≤ b ∧ b ≤ range.2
          · rw [if_pos hb]
            rcases ih (code * 64 + b.toNat % 64) rest with h | ⟨tail, hfits, h⟩
            · exact .inl h
            · exact .inr ⟨b :: tail, .cons hb hfits, h⟩
          · rw [if_neg hb]
            exact .inl rfl

theorem codeOf_cons (code : Nat) (b : UInt8) (tail : List UInt8) :
    codeOf code (b :: tail) = codeOf (code * 64 + b.toNat % 64) tail := rfl

theorem le_codeOf_self (code : Nat) (tail : List UInt8) : code ≤ codeOf code tail := by
  induction tail generalizing code with
  | nil => exact Nat.le_refl _
  | cons b tail ih =>
      rw [codeOf_cons]
      exact Nat.le_trans (by omega) (ih _)

/-- A character of more than one byte is none below `80`. -/
theorem le_codeOf {b : UInt8} {code : Nat} {ranges : List Range} {tail : List UInt8}
    (h : followers? b = some (code, ranges)) (hfits : Fits ranges tail) :
    0x80 ≤ codeOf code tail := by
  -- the first byte holds two bits or more, or the range of the second keeps it from being small
  have hshape : ∃ first more, tail = first :: more ∧
      (2 ≤ code ∨ more ≠ [] ∧ 2 ≤ code * 64 + first.toNat % 64) := by
    unfold followers? at h
    simp only at h
    split_ifs at h
    all_goals
      simp only [Option.some.injEq, Prod.mk.injEq] at h
      obtain ⟨rfl, rfl⟩ := h
      obtain _ | ⟨hb, hmore⟩ := hfits
      refine ⟨_, _, rfl, ?_⟩
      simp only [UInt8.le_iff_toNat_le, UInt8.reduceToNat] at hb
    · exact .inl (by omega)
    · exact .inr ⟨(by rintro rfl; cases hmore), by omega⟩
    · exact .inl (by decide)
    · exact .inr ⟨(by rintro rfl; cases hmore), by omega⟩
    · exact .inr ⟨(by rintro rfl; cases hmore), by omega⟩
    · exact .inr ⟨(by rintro rfl; cases hmore), by omega⟩
    · exact .inl (by decide)
  obtain ⟨first, more, rfl, hcode | ⟨hmore, hcode⟩⟩ := hshape
  · rw [codeOf_cons]
    exact Nat.le_trans (by omega) (le_codeOf_self _ _)
  · obtain ⟨second, more, rfl⟩ := List.exists_cons_of_ne_nil hmore
    rw [codeOf_cons, codeOf_cons]
    exact Nat.le_trans (by omega) (le_codeOf_self _ _)

theorem toNat_ofNat_of_valid {n : Nat} (h : n.isValidChar) : (Char.ofNat n).toNat = n := by
  rw [Char.ofNat, dif_pos h]
  simp [Char.toNat, Char.ofNatAux]

theorem ofNat_ne_of_le {n : Nat} (hn : 0x80 ≤ n) {c : Char} (hc : c.toNat < 0x80)
    (hnul : c ≠ '\x00') : Char.ofNat n ≠ c := by
  rintro rfl
  by_cases hvalid : n.isValidChar
  · rw [toNat_ofNat_of_valid hvalid] at hc
    omega
  · exact hnul (by rw [Char.ofNat, dif_neg hvalid]; rfl)

theorem first_of_lt {b : UInt8} {rest : List UInt8} {c : Char} (h : (first b rest).1 = c)
    (hc : c.toNat < 0x80) (hnul : c ≠ '\x00') : b = UInt8.ofNat c.toNat := by
  unfold first at h
  split at h
  · rename_i hb
    have hn : b.toNat < 128 := by simpa [UInt8.lt_iff_toNat_lt] using hb
    have hvalid : b.toNat.isValidChar := .inl (by omega)
    rw [← h, toNat_ofNat_of_valid hvalid, UInt8.ofNat_toNat]
  · split at h
    · rename_i code ranges hfollow
      exfalso
      rcases complete_cases code ranges rest with hcase | ⟨tail, hfits, hcase⟩
      · rw [hcase] at h
        rw [← h] at hc
        exact absurd hc (by decide)
      · exact ofNat_ne_of_le (le_codeOf hfollow hfits) hc hnul (hcase.symm.trans h)
    · rw [← show replacement = c from h] at hc
      exact absurd hc (by decide)

theorem suffix_complete (code : Nat) (ranges : List Range) (rest : List UInt8) :
    (complete code ranges rest).2 <:+ rest := by
  induction ranges generalizing code rest with
  | nil => exact List.suffix_refl _
  | cons range more ih =>
      cases rest with
      | nil => exact List.suffix_refl _
      | cons b rest =>
          rw [complete]
          split
          · exact (ih _ rest).trans (List.suffix_cons _ _)
          · exact List.suffix_refl _

theorem suffix_first (b : UInt8) (rest : List UInt8) : (first b rest).2 <:+ rest := by
  unfold first
  split
  · exact List.suffix_refl _
  · split
    · exact suffix_complete _ _ rest
    · exact List.suffix_refl _

/-- A character below `80`, but no NUL, is read only where its byte stands. -/
theorem mem_of_mem_decodeChars {c : Char} (hc : c.toNat < 0x80) (hnul : c ≠ '\x00')
    {bytes : List UInt8} (h : c ∈ decodeChars bytes) : UInt8.ofNat c.toNat ∈ bytes := by
  induction bytes using decodeChars.induct with
  | case1 => simp [decodeChars] at h
  | case2 b rest ih =>
      rw [decodeChars, List.mem_cons] at h
      rcases h with h | h
      · exact List.mem_cons.mpr (.inl (first_of_lt h.symm hc hnul).symm)
      · exact List.mem_cons_of_mem _ ((suffix_first b rest).subset (ih h))

/-! ### Cut texts -/

theorem decodeChars_of_prefix_encodeChar {c : Char} {bytes : List UInt8} {k : Nat}
    (h : bytes = (String.utf8EncodeChar c).take k) (hk : k < (String.utf8EncodeChar c).length) :
    ∀ d ∈ decodeChars bytes, d = replacement := by
  rcases encodeChar_cases c with ⟨-, he⟩ | ⟨b, tail, code, ranges, he, hb, -, hf, hfit, -, -⟩
  · rw [he, List.length_singleton] at hk
    obtain rfl : k = 0 := by omega
    simp [h, decodeChars]
  · rw [he] at h hk
    cases k with
    | zero => simp [h, decodeChars]
    | succ k =>
        have hlt : ¬ b < 0x80 := by rw [UInt8.lt_iff_toNat_lt]; simpa using hb
        rw [h, List.take_succ_cons, decodeChars, first, if_neg hlt, hf]
        simp only [complete_of_cut hfit (by simpa using hk)]
        simp [decodeChars]

/-- **Of a text that is cut off, the whole characters are read**, and nothing but U+FFFD after
them. -/
theorem decodeChars_of_prefix {bytes : List UInt8} {cs : List Char}
    (h : bytes <+: cs.flatMap String.utf8EncodeChar) :
    ∃ front back tail, cs = front ++ back ∧ decodeChars bytes = front ++ tail ∧
      ∀ d ∈ tail, d = replacement := by
  induction cs generalizing bytes with
  | nil =>
      rw [List.flatMap_nil, List.prefix_nil] at h
      exact ⟨[], [], [], rfl, by rw [h]; simp [decodeChars], by simp⟩
  | cons c cs ih =>
      rw [List.flatMap_cons] at h
      have hwhole := List.prefix_append (String.utf8EncodeChar c) (cs.flatMap String.utf8EncodeChar)
      by_cases hk : bytes.length < (String.utf8EncodeChar c).length
      · have hpre := List.prefix_of_prefix_length_le h hwhole (by omega)
        exact ⟨[], c :: cs, decodeChars bytes, rfl, rfl,
          decodeChars_of_prefix_encodeChar (List.prefix_iff_eq_take.mp hpre) hk⟩
      · obtain ⟨more, rfl⟩ := List.prefix_of_prefix_length_le hwhole h (by omega)
        rw [List.prefix_append_right_inj] at h
        obtain ⟨front, back, tail, rfl, hread, htail⟩ := ih h
        exact ⟨c :: front, back, tail, rfl, by rw [decodeChars_encodeChar, hread]; rfl, htail⟩

end BoardConsole.Text.Utf8
