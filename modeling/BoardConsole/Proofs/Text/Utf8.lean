import BoardConsole.Text.Utf8
import Mathlib

/-!
# Text — UTF-8 read back

* `decode_encode`: decoding the bytes of a text gives the text, whatever follows them being read
  after it (`decodeChars_encodeChars`).
* A byte below `80` stands in the bytes of a text exactly where its character stands in the text
  (`ofNat_mem_encode`), and no byte is ever `FF` (`toNat_lt_of_mem_encode`).

A character is one byte below `80`, or a first byte that names the ranges of those after it
(`encodeChar_cases`); all else follows from that split.
-/

namespace BoardConsole.Text.Utf8

/-! ### One character -/

/-- Bytes that lie in their ranges, one each. -/
def Fits (ranges : List Range) (tail : List UInt8) : Prop :=
  List.Forall₂ (fun range b => range.1 ≤ b ∧ b ≤ range.2) ranges tail

/-- The code of a first byte's bits followed by six bits from each byte. -/
def codeOf (code : Nat) (tail : List UInt8) : Nat :=
  tail.foldl (fun code b => code * 64 + b.toNat % 64) code

theorem complete_of_fits {code : Nat} {ranges : List Range} {tail : List UInt8}
    (h : Fits ranges tail) (rest : List UInt8) :
    complete code ranges (tail ++ rest) = (Char.ofNat (codeOf code tail), rest) := by
  induction h generalizing code with
  | nil => rfl
  | cons hb _ ih => rw [List.cons_append, complete, if_pos hb, ih]; rfl

/-- A character whose last bytes are missing is one U+FFFD. -/
theorem complete_of_cut {code : Nat} {ranges : List Range} {tail : List UInt8}
    (h : Fits ranges tail) {k : Nat} (hk : k < tail.length) :
    complete code ranges (tail.take k) = (replacement, []) := by
  induction h generalizing code k with
  | nil => simp at hk
  | cons hb _ ih =>
      cases k with
      | zero => rfl
      | succ k =>
          rw [List.take_succ_cons, complete, if_pos hb]
          exact ih (by simpa using hk)

theorem toNat_ofNat_of_lt {n : Nat} (h : n < 256) : (UInt8.ofNat n).toNat = n := by
  rw [UInt8.toNat_ofNat', Nat.mod_eq_of_lt h]

/-- The byte that holds the last six bits of `n`. -/
def tailByte (n : Nat) : UInt8 := UInt8.ofNat (n % 64 + 0x80)

theorem toNat_tailByte (n : Nat) : (tailByte n).toNat = n % 64 + 0x80 :=
  toNat_ofNat_of_lt (by omega)

/-- A byte of six bits lies in a range whose bounds it respects. -/
theorem tailByte_mem {n : Nat} {range : Range} (h₁ : range.1.toNat ≤ n % 64 + 0x80)
    (h₂ : n % 64 + 0x80 ≤ range.2.toNat) : range.1 ≤ tailByte n ∧ tailByte n ≤ range.2 := by
  simp only [UInt8.le_iff_toNat_le, toNat_tailByte]
  exact ⟨h₁, h₂⟩

theorem tailByte_mem_continuation (n : Nat) :
    continuation.1 ≤ tailByte n ∧ tailByte n ≤ continuation.2 :=
  tailByte_mem (by simp [continuation]) (by simp [continuation]; omega)

theorem codeOf_tailByte (code n : Nat) (tail : List UInt8) :
    codeOf code (tailByte n :: tail) = codeOf (code * 64 + n % 64) tail := by
  rw [codeOf, List.foldl_cons, toNat_tailByte]
  exact congrArg (codeOf · tail) (by omega)

/-- What follows the first byte of a character of three bytes, as a condition on the second. -/
theorem followers?_three {b : UInt8} {m x : Nat} (hb : b.toNat = m + 0xE0) (hm : m ≤ 15)
    (h₀ : m = 0 → 32 ≤ x % 64) (h₁ : m = 13 → x % 64 < 32) :
    ∃ range, followers? b = some (m, [range, continuation]) ∧
      range.1 ≤ tailByte x ∧ tailByte x ≤ range.2 := by
  simp only [followers?, hb]
  rw [if_neg (by omega)]
  by_cases e₀ : m = 0
  · subst e₀
    exact ⟨_, rfl, tailByte_mem (by simp; omega) (by simp; omega)⟩
  by_cases e₁ : m = 13
  · subst e₁
    exact ⟨_, rfl, tailByte_mem (by simp) (by simp; omega)⟩
  · rw [if_neg (by omega), if_neg (by omega), if_pos (by omega)]
    exact ⟨_, by simp, tailByte_mem_continuation x⟩

/-- The same for a character of four bytes. -/
theorem followers?_four {b : UInt8} {m x : Nat} (hb : b.toNat = m + 0xF0) (hm : m ≤ 4)
    (h₀ : m = 0 → 16 ≤ x % 64) (h₁ : m = 4 → x % 64 < 16) :
    ∃ range, followers? b = some (m, [range, continuation, continuation]) ∧
      range.1 ≤ tailByte x ∧ tailByte x ≤ range.2 := by
  simp only [followers?, hb]
  rw [if_neg (by omega), if_neg (by omega), if_neg (by omega), if_neg (by omega)]
  by_cases e₀ : m = 0
  · subst e₀
    exact ⟨_, rfl, tailByte_mem (by simp; omega) (by simp; omega)⟩
  by_cases e₁ : m = 4
  · subst e₁
    exact ⟨_, rfl, tailByte_mem (by simp) (by simp; omega)⟩
  · rw [if_neg (by omega), if_pos (by omega)]
    exact ⟨_, by simp, tailByte_mem_continuation x⟩

theorem tailByte_bounds (n : Nat) : 0x80 ≤ (tailByte n).toNat ∧ (tailByte n).toNat < 0xC0 := by
  rw [toNat_tailByte]
  omega

/-- **The two shapes of a character**: one byte below `80`, or a first byte with those that its
ranges allow. -/
theorem encodeChar_cases (c : Char) :
    (c.toNat < 0x80 ∧ String.utf8EncodeChar c = [UInt8.ofNat c.toNat]) ∨
    ∃ b tail code ranges, String.utf8EncodeChar c = b :: tail ∧ 0x80 ≤ b.toNat ∧ b.toNat < 0xF8 ∧
      followers? b = some (code, ranges) ∧ Fits ranges tail ∧ codeOf code tail = c.toNat ∧
      ∀ x ∈ tail, 0x80 ≤ x.toNat ∧ x.toNat < 0xC0 := by
  have hv : c.toNat < 0xD800 ∨ (0xDFFF < c.toNat ∧ c.toNat < 0x110000) := c.valid
  unfold String.utf8EncodeChar
  simp only [Char.toNat_val]
  generalize c.toNat = n at hv ⊢
  split
  · exact .inl ⟨by omega, rfl⟩
  right
  split
  · have hb : (UInt8.ofNat (n / 64 % 32 + 0xC0)).toNat = n / 64 + 0xC0 := by
      rw [toNat_ofNat_of_lt (by omega)]; omega
    refine ⟨_, [tailByte n], n / 64, [continuation], rfl, by omega, by omega, ?_,
      .cons (tailByte_mem_continuation n) .nil, ?_, ?_⟩
    · simp only [followers?, hb]
      rw [if_pos (by omega)]
      simp
    · rw [codeOf_tailByte, codeOf, List.foldl_nil]
      omega
    · simp only [List.forall_mem_singleton, tailByte_bounds, and_self]
  split
  · have hb : (UInt8.ofNat (n / 4096 % 16 + 0xE0)).toNat = n / 4096 + 0xE0 := by
      rw [toNat_ofNat_of_lt (by omega)]; omega
    obtain ⟨range, hf, hr⟩ := followers?_three (x := n / 64) hb (by omega) (by omega) (by omega)
    refine ⟨_, [tailByte (n / 64), tailByte n], _, _, rfl, by omega, by omega, hf,
      .cons hr (.cons (tailByte_mem_continuation n) .nil), ?_, ?_⟩
    · rw [codeOf_tailByte, codeOf_tailByte, codeOf, List.foldl_nil]
      omega
    · simp only [List.forall_mem_cons, tailByte_bounds, and_self, true_and]
      simp
  · have hb : (UInt8.ofNat (n / 262144 % 8 + 0xF0)).toNat = n / 262144 + 0xF0 := by
      rw [toNat_ofNat_of_lt (by omega)]; omega
    obtain ⟨range, hf, hr⟩ := followers?_four (x := n / 4096) hb (by omega) (by omega) (by omega)
    refine ⟨_, [tailByte (n / 4096), tailByte (n / 64), tailByte n], _, _, rfl, by omega, by omega,
      hf, .cons hr (.cons (tailByte_mem_continuation _) (.cons (tailByte_mem_continuation n) .nil)),
      ?_, ?_⟩
    · rw [codeOf_tailByte, codeOf_tailByte, codeOf_tailByte, codeOf, List.foldl_nil]
      omega
    · simp only [List.forall_mem_cons, tailByte_bounds, and_self, true_and]
      simp

/-! ### Reading whole characters -/

theorem encode_eq (s : String) : encode s = s.toList.flatMap String.utf8EncodeChar := rfl

/-- Whatever follows a character, reading takes the character off. -/
theorem decodeChars_encodeChar (c : Char) (rest : List UInt8) :
    decodeChars (String.utf8EncodeChar c ++ rest) = c :: decodeChars rest := by
  rcases encodeChar_cases c with ⟨hc, he⟩ | ⟨b, tail, code, ranges, he, hb, -, hf, hfit, hcode, -⟩
  · have hn : (UInt8.ofNat c.toNat).toNat = c.toNat := toNat_ofNat_of_lt (by omega)
    have hlt : UInt8.ofNat c.toNat < 0x80 := by rw [UInt8.lt_iff_toNat_lt, hn]; exact hc
    rw [he, List.singleton_append, decodeChars, first, if_pos hlt, hn, Char.ofNat_toNat]
  · have hlt : ¬ b < 0x80 := by rw [UInt8.lt_iff_toNat_lt]; simpa using hb
    rw [he, List.cons_append, decodeChars, first, if_neg hlt, hf]
    simp only [complete_of_fits hfit, hcode, Char.ofNat_toNat]

theorem decodeChars_encodeChars (cs : List Char) (rest : List UInt8) :
    decodeChars (cs.flatMap String.utf8EncodeChar ++ rest) = cs ++ decodeChars rest := by
  induction cs with
  | nil => rfl
  | cons c cs ih =>
      rw [List.flatMap_cons, List.append_assoc, decodeChars_encodeChar, ih, List.cons_append]

theorem decodeChars_encode (s : String) : decodeChars (encode s) = s.toList := by
  have h := decodeChars_encodeChars s.toList []
  rwa [List.append_nil, decodeChars, List.append_nil] at h

/-- **A text is read back from its bytes.** -/
@[simp]
theorem decode_encode (s : String) : decode (encode s) = s := by
  rw [decode, decodeChars_encode, String.ofList_toList]

@[simp]
theorem encode_append (s t : String) : encode (s ++ t) = encode s ++ encode t := by
  simp only [encode_eq, String.toList_append, List.flatMap_append]

theorem size_append (s t : String) : size (s ++ t) = size s + size t := by
  rw [size, encode_append, List.length_append]
  rfl

/-! ### The bytes that occur -/

theorem encodeChar_of_lt {c : Char} (hc : c.toNat < 0x80) :
    String.utf8EncodeChar c = [UInt8.ofNat c.toNat] := by
  simp only [String.utf8EncodeChar, Char.toNat_val]
  rw [if_pos (by omega)]

/-- A byte below `80` is a character of its own. -/
theorem ofNat_mem_encodeChar {n : Nat} (hn : n < 0x80) (c : Char) :
    UInt8.ofNat n ∈ String.utf8EncodeChar c ↔ c.toNat = n := by
  have hb : (UInt8.ofNat n).toNat = n := toNat_ofNat_of_lt (by omega)
  rcases encodeChar_cases c with ⟨hc, he⟩ | ⟨b, tail, code, ranges, he, hlow, -, hf, -, -, ht⟩
  · rw [he, List.mem_singleton, ← UInt8.toNat_inj, hb, toNat_ofNat_of_lt (by omega), eq_comm]
  · have hc : 0x80 ≤ c.toNat := by
      by_contra hc
      have hfirst : UInt8.ofNat c.toNat = b := by
        rw [encodeChar_of_lt (by omega)] at he
        exact (List.cons.inj he).1
      rw [← hfirst, toNat_ofNat_of_lt (by omega)] at hlow
      omega
    refine iff_of_false (fun hm => ?_) (by omega)
    rw [he, List.mem_cons] at hm
    rcases hm with rfl | hm
    · omega
    · have := ht _ hm
      omega

/-- Characters below `80` take a byte each. -/
theorem size_of_lt {s : String} (h : ∀ c ∈ s.toList, c.toNat < 0x80) :
    size s = s.toList.length := by
  rw [size, encode_eq]
  generalize s.toList = cs at h
  induction cs with
  | nil => rfl
  | cons c cs ih =>
      rw [List.forall_mem_cons] at h
      rw [List.flatMap_cons, encodeChar_of_lt h.1, List.length_append, ih h.2, List.length_cons]
      exact Nat.add_comm _ _

/-- A byte below `80` occurs in the bytes of a text where its character does. -/
theorem ofNat_mem_encode {c : Char} (hc : c.toNat < 0x80) (s : String) :
    UInt8.ofNat c.toNat ∈ encode s ↔ c ∈ s.toList := by
  rw [encode_eq, List.mem_flatMap]
  constructor
  · rintro ⟨d, hd, hm⟩
    rw [ofNat_mem_encodeChar hc] at hm
    exact Char.toNat_inj.1 hm ▸ hd
  · exact fun h => ⟨c, h, (ofNat_mem_encodeChar hc c).2 rfl⟩

/-- No text holds the byte `FF`. -/
theorem toNat_lt_of_mem_encode {b : UInt8} {s : String} (h : b ∈ encode s) : b.toNat < 0xF8 := by
  rw [encode_eq, List.mem_flatMap] at h
  obtain ⟨c, -, hm⟩ := h
  rcases encodeChar_cases c with ⟨hc, he⟩ | ⟨x, tail, code, ranges, he, -, hx, -, -, -, ht⟩
  · rw [he, List.mem_singleton] at hm
    rw [hm, toNat_ofNat_of_lt (by omega)]
    omega
  · rw [he, List.mem_cons] at hm
    rcases hm with rfl | hm
    · exact hx
    · have := ht _ hm
      omega

end BoardConsole.Text.Utf8
