import BoardConsole.Proofs.Toml.Quoted
import BoardConsole.Toml.Document

/-!
# Toml — Written documents, read back

* `written_quote`, `written_number`: a text in quotes and a whole number in digits are read as what
  was written, up to the end of their line.
* `leads_header`, `leads_setting`: a header opens its table, and a line under it gives one more
  value to the table.
* `read_of_leads`: lines that lead from the empty document to a table are a document of that table.

A line says what it does whatever follows it (`Leads`), so lines that each lead on make a document
(`Leads.trans`).
-/

namespace BoardConsole.Toml

/-! ### Whole numbers -/

namespace Scalar
open Text (ofDigits ofDigits_toDigits exists_cons_toDigits)

/-- Decimal digits. -/
def IsDigits (ds : List Char) : Prop := ∀ c ∈ ds, c.isDigit = true

theorem isDigits_toDigits (n : Nat) : IsDigits (Nat.toDigits 10 n) :=
  fun _ hc => Nat.isDigit_of_mem_toDigits (by decide) (by decide) hc

/-- Only zero begins with a zero. -/
theorem toDigits_cases (n : Nat) :
    n = 0 ∨ ∃ c ds, Nat.toDigits 10 n = c :: ds ∧ c ≠ '0' := by
  induction n using Nat.strong_induction_on with
  | _ n ih =>
      rw [Nat.toDigits_eq_if (by decide)]
      split
      next hn => interval_cases n <;> simp
      next hn =>
        rcases ih (n / 10) (Nat.div_lt_self (by omega) (by decide)) with h | ⟨c, ds, h, hc⟩
        · omega
        · exact .inr ⟨c, ds ++ [(n % 10).digitChar], by rw [h]; rfl, hc⟩

variable {ds : List Char} (hds : IsDigits ds) (rest : List Char)

include hds

theorem groupedRest_digits :
    groupedRest Char.isDigit (ds ++ '\n' :: rest) = (ds, '\n' :: rest) := by
  induction ds with
  | nil => simp [groupedRest]
  | cons c ds ih =>
      rw [IsDigits, List.forall_mem_cons] at hds
      have hc : ∀ d ds', c = '_' → ds ++ '\n' :: rest = d :: ds' → False :=
        fun _ _ h _ => absurd hds.1 (by simp [h])
      rw [List.cons_append, groupedRest.eq_2 _ _ _ hc, if_pos hds.1, ih hds.2]

/-- What follows some of the digits is a digit or the end of the line. -/
theorem mark_of_fixed {c : Char} (hdigit : c.isDigit = false) (hnewline : c ≠ '\n')
    {width n : Nat} {after : List Char}
    (h : fixed width (ds ++ '\n' :: rest) = some (n, after)) : mark c after = none := by
  unfold fixed at h
  dsimp only at h
  split_ifs at h with hall
  obtain ⟨-, rfl⟩ : _ ∧ (ds ++ '\n' :: rest).drop width = after := by simpa using h
  -- The end of the line is no digit, so it is not among those that were taken.
  have hwidth : width ≤ ds.length := by
    by_contra hlong
    have hmem : '\n' ∈ (ds ++ '\n' :: rest).take width := by
      obtain ⟨k, rfl⟩ : ∃ k, width = ds.length + (k + 1) := ⟨width - ds.length - 1, by omega⟩
      simp [List.take_append]
    exact absurd (List.all_eq_true.1 hall.2 _ hmem) (by decide)
  rw [List.drop_append_of_le_length hwidth]
  have hdrop : IsDigits (ds.drop width) := fun d hd => hds d (List.mem_of_mem_drop hd)
  cases hrest : ds.drop width with
  | nil => exact if_neg hnewline
  | cons d more =>
      rw [hrest, IsDigits, List.forall_mem_cons] at hdrop
      exact if_neg fun h => absurd hdrop.1 (by simp [← h, hdigit])

theorem date_digits : date (ds ++ '\n' :: rest) = none := by
  unfold date
  cases h : fixed 4 (ds ++ '\n' :: rest) with
  | none => rfl
  | some found =>
      obtain ⟨year, after⟩ := found
      simp [mark_of_fixed hds rest (c := '-') (by decide) (by decide) h]

theorem time_digits : time (ds ++ '\n' :: rest) = none := by
  unfold time ranged
  cases h : fixed 2 (ds ++ '\n' :: rest) with
  | none => rfl
  | some found =>
      obtain ⟨hour, after⟩ := found
      dsimp only
      split_ifs
      · simp [mark_of_fixed hds rest (c := ':') (by decide) (by decide) h]
      · rfl

omit hds

/-- Digits without a leading zero are read up to the end of their line. -/
theorem decimal_toDigits (n : Nat) :
    decimal (Nat.toDigits 10 n ++ '\n' :: rest) = some (Nat.toDigits 10 n, '\n' :: rest) := by
  rcases toDigits_cases n with rfl | ⟨c, ds, h, hc⟩
  · rfl
  · have hds := isDigits_toDigits n
    rw [h, IsDigits, List.forall_mem_cons] at hds
    rw [h, List.cons_append, decimal.eq_2 _ fun _ h => hc (List.cons.inj h).1, grouped,
      if_pos hds.1, groupedRest_digits hds.2]

theorem sign_toDigits (n : Nat) :
    sign (Nat.toDigits 10 n ++ '\n' :: rest) = (false, Nat.toDigits 10 n ++ '\n' :: rest) := by
  obtain ⟨c, ds, h, hc, -⟩ := exists_cons_toDigits n
  rw [h, List.cons_append]
  unfold sign
  split <;> simp_all

theorem special?_toDigits (n : Nat) : special? (Nat.toDigits 10 n ++ '\n' :: rest) = none := by
  obtain ⟨c, ds, h, hc, -⟩ := exists_cons_toDigits n
  rw [h, List.cons_append]
  unfold special?
  split <;> simp_all

theorem float_toDigits (n : Nat) : float (Nat.toDigits 10 n ++ '\n' :: rest) = none := by
  rw [float, sign_toDigits]
  dsimp only
  rw [special?_toDigits, decimal_toDigits]
  rfl

theorem int64?_of_lt {n : Nat} (hn : n < Nat.pow 2 63) : int64? n = some (.integer n) := by
  rw [int64?, if_pos]
  generalize Nat.pow 2 63 = bound at hn
  omega

/-- After a zero the line ends. -/
theorem ne_prefix_toDigits (n : Nat) {c : Char} (hc : c ≠ '\n') (cs : List Char) :
    Nat.toDigits 10 n ++ '\n' :: rest ≠ '0' :: c :: cs := by
  intro h
  rcases toDigits_cases n with rfl | ⟨d, ds, hd, hzero⟩
  · rw [Nat.toDigits_zero] at h
    exact hc (List.cons.inj (List.cons.inj h).2).1.symm
  · rw [hd] at h
    exact hzero (List.cons.inj h).1

theorem integer_toDigits {n : Nat} (hn : n < Nat.pow 2 63) :
    integer (Nat.toDigits 10 n ++ '\n' :: rest) = some (.integer n, '\n' :: rest) := by
  rw [integer.eq_4 _ (ne_prefix_toDigits rest n (by decide))
    (ne_prefix_toDigits rest n (by decide)) (ne_prefix_toDigits rest n (by decide)), sign_toDigits]
  dsimp only
  rw [decimal_toDigits, Option.bind_eq_bind, Option.bind_some]
  simp only [Bool.false_eq_true, if_false]
  rw [ofDigits_toDigits (by decide) (by decide), int64?_of_lt hn]
  rfl

/-- **The digits of a number that fits** are read as the number. -/
theorem read_toDigits {n : Nat} (hn : n < Nat.pow 2 63) :
    read (Nat.toDigits 10 n ++ '\n' :: rest) = some (.integer n, '\n' :: rest) := by
  have hds := isDigits_toDigits n
  rw [read, dateTime, date_digits hds, time_digits hds, float_toDigits, integer_toDigits rest hn]
  rfl

end Scalar

/-! ### Tables -/

namespace Entries

variable {es : Entries} {key : String}

theorem lookup_append_self (h : es.lookup key = none) (v : Value) :
    (es ++ [(key, v)]).lookup key = some v := by
  rw [List.lookup_append, h]
  simp [List.lookup]

theorem replace_append_self (h : es.lookup key = none) (v w : Value) :
    replace key w (es ++ [(key, v)]) = es ++ [(key, w)] := by
  induction es with
  | nil => simp [replace]
  | cons e es ih =>
      obtain ⟨k, u⟩ := e
      have hk : key ≠ k := fun hk => by simp [hk, List.lookup] at h
      rw [List.lookup_cons, beq_eq_false_iff_ne.2 hk] at h
      rw [List.cons_append, replace, if_neg (Ne.symm hk), ih h]
      rfl

theorem openTable_new (h : es.lookup key = none) :
    es.openTable [] key = some (es ++ [(key, .table .header [])]) := by
  rw [openTable, alter, h]

theorem assign_new (h : es.lookup key = none) (v : Value) (origin : Origin) :
    es.assign [] key v origin = some (es ++ [(key, v)]) := by
  rw [assign, alter, if_pos ⟨.inl rfl, by rw [h]; rfl⟩]

/-- A new key goes behind the others of the table opened last. -/
theorem assignUnder_new {part : String} {inner : Entries} (hpart : es.lookup part = none)
    (h : inner.lookup key = none) (v : Value) :
    assignUnder [part] [] key v (es ++ [(part, .table .header inner)])
      = some (es ++ [(part, .table .header (inner ++ [(key, v)]))]) := by
  rw [assignUnder, alter, lookup_append_self hpart]
  dsimp only
  rw [if_neg (by decide), alter, assign_new h, Option.map_some, replace_append_self hpart]

end Entries

namespace Document
open Quoted (isSpace isInk isSpace_of_isInk lineEnd?_of_isInk)

/-! ### Keys -/

/-- A key that needs no quotes. -/
def IsBare (key : String) : Prop := key.toList ≠ [] ∧ key.toList.all isKeyChar = true

instance (key : String) : Decidable (IsBare key) := inferInstanceAs (Decidable (_ ∧ _))

theorem IsBare.exists_cons {key : String} (h : IsBare key) :
    ∃ d ds, key.toList = d :: ds ∧ isKeyChar d = true := by
  obtain ⟨d, ds, hd⟩ := List.exists_cons_of_ne_nil h.1
  exact ⟨d, ds, hd, List.all_eq_true.1 h.2 d (hd ▸ List.mem_cons_self)⟩

theorem isKeyChar_ne {c : Char} (h : isKeyChar c = true) {d : Char} (hd : isKeyChar d = false) :
    c ≠ d := by
  rintro rfl
  simp [h] at hd

theorem skipSpaces_cons {c : Char} (h : isInk c = true) (cs : List Char) :
    skipSpaces (c :: cs) = c :: cs := by
  simp [skipSpaces, isSpace_of_isInk h]

theorem isInk_of_isKeyChar {c : Char} (h : isKeyChar c = true) : isInk c = true := by
  have hne := fun d => isKeyChar_ne h (d := d)
  simp [isInk, isSpace, hne ' ' rfl, hne '\t' rfl, hne '\n' rfl, hne '\r' rfl]

variable {key : String} {c : Char}

/-- A bare key is read up to a character that no such key has. -/
theorem readKey_bare (hkey : IsBare key) (hc : isKeyChar c = false) (cs : List Char) :
    readKey (key.toList ++ c :: cs) = some (key, c :: cs) := by
  have hchars := List.all_eq_true.1 hkey.2
  have htake : (key.toList ++ c :: cs).takeWhile isKeyChar = key.toList := by
    rw [List.takeWhile_append_of_pos hchars, List.takeWhile_cons_of_neg (by simp [hc]),
      List.append_nil]
  have hdrop : (key.toList ++ c :: cs).dropWhile isKeyChar = c :: cs := by
    rw [List.dropWhile_append_of_pos hchars, List.dropWhile_cons_of_neg (by simp [hc])]
  have hquote : ∀ q, isKeyChar q = false → ∀ more, key.toList ++ c :: cs = q :: more → False := by
    intro q hq more h
    obtain ⟨d, ds, hd, hchar⟩ := hkey.exists_cons
    rw [hd, List.cons_append] at h
    exact isKeyChar_ne hchar hq (List.cons.inj h).1
  rw [readKey.eq_3 _ (hquote '"' (by decide)) (hquote '\'' (by decide)), htake, hdrop]
  simp [hkey.1]

theorem readPath_bare (hkey : IsBare key) (hc : isKeyChar c = false) {cs : List Char}
    (rest : List Char) (hrest : skipSpaces (c :: cs) = rest) (hdot : rest.head? ≠ some '.') :
    readPath (key.toList ++ c :: cs) = some (([], key), rest) := by
  have hskip : skipSpaces (key.toList ++ c :: cs) = key.toList ++ c :: cs := by
    obtain ⟨d, ds, hd, hchar⟩ := hkey.exists_cons
    rw [hd]
    exact skipSpaces_cons (isInk_of_isKeyChar hchar) _
  have hkeys : readKeys ((key.toList ++ c :: cs).length + 1) (key.toList ++ c :: cs)
      = some ([key], rest) := by
    rw [readKeys, hskip, readKey_bare hkey hc]
    dsimp only
    rw [hrest]
    split
    · simp at hdot
    · rfl
  rw [readPath, hkeys]
  rfl

/-! ### Values -/

/-- After blanks, the text is read as the value up to the end of its line. -/
def Written (text : List Char) (v : Value) : Prop :=
  ∀ levels rest, readValue levels (skipSpaces (' ' :: (text ++ '\n' :: rest)))
    = some (v, '\n' :: rest)

theorem skipSpaces_space (cs : List Char) : skipSpaces (' ' :: cs) = skipSpaces cs := rfl

theorem written_quote (cs : List Char) :
    Written (Quoted.quote cs) (.string (String.ofList cs)) := by
  intro levels rest
  obtain ⟨q, inner, hq, hquote, hread⟩ := Quoted.read_quote cs
    (show ('\n' :: rest).head? ≠ some '"' by simp) (by simp)
  rw [hquote, skipSpaces_space, List.cons_append]
  rcases hq with rfl | rfl
  · rw [skipSpaces_cons rfl, readValue.eq_1, hread]
    rfl
  · rw [skipSpaces_cons rfl, readValue.eq_2, hread]
    rfl

theorem written_number {n : Nat} (hn : n < Nat.pow 2 63) :
    Written (Nat.toDigits 10 n) (.integer n) := by
  intro levels rest
  obtain ⟨c, ds, h, hc, -⟩ := Text.exists_cons_toDigits n
  have hread := Scalar.read_toDigits rest hn
  rw [h, List.cons_append] at hread
  have hplain : ∀ d, d.isDigit = false → c ≠ d := by
    rintro d hd rfl
    simp [hc] at hd
  rw [h, List.cons_append, skipSpaces_space,
    skipSpaces_cons (by simp [isInk, isSpace, hplain])]
  unfold readValue
  split <;> simp_all

/-! ### Lines -/

/-- Whole lines that take a document from one state to another, whatever follows them. -/
def Leads (st : State) (text : List Char) (st' : State) : Prop :=
  ∃ n ≤ text.length, ∀ fuel rest, readLines (fuel + n) st (text ++ rest) = readLines fuel st' rest

theorem Leads.refl (st : State) : Leads st [] st := ⟨0, Nat.le_refl _, fun _ _ => rfl⟩

theorem Leads.trans {st₁ st₂ st₃ : State} {a b : List Char} (h₁ : Leads st₁ a st₂)
    (h₂ : Leads st₂ b st₃) : Leads st₁ (a ++ b) st₃ := by
  obtain ⟨n, hn, ha⟩ := h₁
  obtain ⟨m, hm, hb⟩ := h₂
  refine ⟨m + n, by rw [List.length_append]; omega, fun fuel rest => ?_⟩
  rw [List.append_assoc, ← Nat.add_assoc, ha, hb]

theorem leads_blank (st : State) : Leads st ['\n'] st := ⟨1, Nat.le_refl _, fun _ _ => rfl⟩

/-- A line that is read as one. -/
theorem leads_line {st st' : State} {cs : List Char} (hc : isInk c = true) (hcomment : c ≠ '#')
    (h : ∀ rest, readLine st (c :: (cs ++ rest)) = some (st', rest)) : Leads st (c :: cs) st' := by
  refine ⟨1, by simp, fun fuel rest => ?_⟩
  rw [List.cons_append, readLines, skipSpaces_cons hc]
  split
  next hnil => simp at hnil
  next hmark => exact absurd (List.cons.inj hmark).1 hcomment
  next =>
    rw [lineEnd?_of_isInk hc, h]
    rfl

/-- **A header** opens its table. -/
theorem leads_header {es : Entries} (hkey : IsBare key) (h : es.lookup key = none)
    (header : List String) :
    Leads ⟨es, header⟩ ('[' :: (key.toList ++ [']', '\n']))
      ⟨es ++ [(key, .table .header [])], [key]⟩ := by
  refine leads_line rfl (by decide) fun rest => ?_
  have hread : readHeader [']'] (key.toList ++ ']' :: '\n' :: rest) = some (([], key), rest) := by
    rw [readHeader, readPath_bare hkey (by decide) (']' :: '\n' :: rest) rfl (by simp)]
    rfl
  have hbracket : ∀ cs, key.toList ++ ']' :: '\n' :: rest = '[' :: cs → False := by
    obtain ⟨d, ds, hd, hchar⟩ := hkey.exists_cons
    rw [hd, List.cons_append]
    exact fun cs h => isKeyChar_ne hchar rfl (List.cons.inj h).1
  rw [List.append_assoc, List.cons_append, List.singleton_append, readLine.eq_2 _ _ hbracket, hread]
  simp only [Option.bind_eq_bind, Option.bind_some, Entries.openTable_new h]
  rfl

/-- **A line under a header** gives one more value to its table. -/
theorem leads_setting {es inner : Entries} {part : String} (hkey : IsBare key)
    (hpart : es.lookup part = none) (h : inner.lookup key = none) {text : List Char} {v : Value}
    (hv : Written text v) :
    Leads ⟨es ++ [(part, .table .header inner)], [part]⟩
      (key.toList ++ ' ' :: '=' :: ' ' :: (text ++ ['\n']))
      ⟨es ++ [(part, .table .header (inner ++ [(key, v)]))], [part]⟩ := by
  obtain ⟨d, ds, hd, hchar⟩ := hkey.exists_cons
  have hread : ∀ rest, readAssignment (readValue (limit - 1))
      (key.toList ++ ' ' :: '=' :: ' ' :: (text ++ '\n' :: rest))
      = some (([], key), v, '\n' :: rest) := by
    intro rest
    rw [readAssignment,
      readPath_bare hkey (by decide) ('=' :: ' ' :: (text ++ '\n' :: rest)) rfl (by simp)]
    simp [Scalar.mark, hv (limit - 1) rest]
  rw [hd] at hread
  rw [hd, List.cons_append]
  refine leads_line (isInk_of_isKeyChar hchar) (isKeyChar_ne hchar rfl) fun rest => ?_
  have hline : d :: (ds ++ ' ' :: '=' :: ' ' :: (text ++ ['\n']) ++ rest)
      = d :: ds ++ ' ' :: '=' :: ' ' :: (text ++ '\n' :: rest) := by simp
  have hbracket : ∀ cs, d :: (ds ++ ' ' :: '=' :: ' ' :: (text ++ ['\n']) ++ rest) = '[' :: cs →
      False := fun cs h => isKeyChar_ne hchar rfl (List.cons.inj h).1
  rw [readLine.eq_3 _ _ (fun cs => hbracket _) hbracket, hline, hread]
  simp only [Option.bind_eq_bind, Option.bind_some, Entries.assignUnder_new hpart h]
  rfl

/-- **Lines that lead from nothing to a table** are a document of that table. -/
theorem read_of_leads {text : String} {st : State} (hmark : text.toList.head? ≠ some byteOrderMark)
    (h : Leads ⟨[], []⟩ text.toList st) : read text = some st.entries := by
  obtain ⟨n, hn, hlines⟩ := h
  -- There is fuel for one line more than there are characters: the last finds the end.
  obtain ⟨fuel, hfuel⟩ : ∃ fuel, text.toList.length + 1 = fuel + 1 + n :=
    ⟨text.toList.length - n, by omega⟩
  have hread := hlines (fuel + 1) []
  rw [List.append_nil] at hread
  rw [read, if_neg hmark, hfuel, hread]
  rfl

end Document

end BoardConsole.Toml
