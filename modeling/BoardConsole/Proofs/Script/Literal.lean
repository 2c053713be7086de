import BoardConsole.Proofs.Script.Progress
import BoardConsole.Proofs.Script.Rendering

/-!
# Script — Integer literals

Where a token begins with a digit, a run of ASCII letters and digits begins (`NumberRun`).  It is
read as a whole or not at all, and its worth is what it says as a literal (`Literal`): digits of base
ten of at most 31 bits, or `0x` and digits of base sixteen of at most 32, with as many zeros in front
of them as one likes.

* `number?_eq_some_iff`: a run is worth what it says as a literal, and nothing if it is none.
* `NumberRun.reaches_iff`: from the front of a run the lexer goes to its end at once, or nowhere.
* `literals_exact`: so a run is one number where it is a literal, and a fault that names it where it
  is none, whatever stands before it and behind it.
-/

namespace BoardConsole.Lexer
open Text

/-! ### What a run says -/

/-- The characters of an integer literal, and what it says. -/
inductive Literal : List Char → Int32 → Prop where
  /-- Digits of base ten say their number. -/
  | decimal (zeros : Nat) {digits : List Char} {n : Nat} {v : Int32} (hdigits : digits ≠ [])
      (hn : Writes 10 digits n) (hmax : n ≤ 2 ^ 31 - 1) (hv : v.toInt = n) :
      Literal (List.replicate zeros '0' ++ digits) v
  /-- Digits of base sixteen say the number that has these bits. -/
  | hex {mark : Char} (hmark : mark = 'x' ∨ mark = 'X') (zeros : Nat) {digits : List Char} {n : Nat}
      {v : Int32} (hdigits : digits ≠ []) (hn : Writes 16 digits n) (hmax : n < 2 ^ 32)
      (hv : v.toUInt32.toNat = n) :
      Literal ('0' :: mark :: (List.replicate zeros '0' ++ digits)) v

theorem hexDigits?_eq_some_iff {run digits : List Char} :
    hexDigits? run = some digits ↔
      ∃ mark, (mark = 'x' ∨ mark = 'X') ∧ run = '0' :: mark :: digits := by
  constructor
  · intro h
    unfold hexDigits? at h
    split at h
    · cases h
      exact ⟨'x', .inl rfl, rfl⟩
    · cases h
      exact ⟨'X', .inr rfl, rfl⟩
    · cases h
  · rintro ⟨mark, rfl | rfl, rfl⟩ <;> rfl

/-- Neither mark of base sixteen is a digit of base ten. -/
theorem hexDigits?_of_writes {run : List Char} {n : Nat} (h : Writes 10 run n) :
    hexDigits? run = none := by
  have hdigits := ((writes_iff (by decide)).mp h).1
  rw [Option.eq_none_iff_forall_ne_some]
  intro digits hhex
  obtain ⟨mark, hmark, rfl⟩ := hexDigits?_eq_some_iff.mp hhex
  have hdigit := List.all_eq_true.mp hdigits mark (by simp)
  rcases hmark with rfl | rfl <;> exact absurd hdigit (by decide)

theorem ofNat_eq_iff_toInt {n : Nat} (h : n < 2 ^ 31) (v : Int32) :
    Int32.ofNat n = v ↔ v.toInt = n := by
  rw [← Int32.toInt_inj, Int32.toInt_ofNat_of_lt h, eq_comm]

theorem ofNat_eq_iff_bits {n : Nat} (h : n < 2 ^ 32) (v : Int32) :
    Int32.ofNat n = v ↔ v.toUInt32.toNat = n := by
  constructor
  · rintro rfl
    rw [Int32.toUInt32_ofNat', UInt32.toNat_ofNat_of_lt' h]
  · rintro rfl
    exact ofNat_bits v

/-- The 32 bits of a number that has no more than `bits`. -/
def inBits? (bits n : Nat) : Option Int32 :=
  if n < 2 ^ bits then some (Int32.ofNat n) else none

theorem number?_eq (run : List Char) :
    number? run = match hexDigits? run with
      | some digits => (nat? 16 digits).bind (inBits? 32)
      | none        => (nat? 10 run).bind (inBits? 31) := by
  unfold number?
  cases hexDigits? run with
  | some digits =>
      dsimp only
      cases nat? 16 digits <;> rfl
  | none =>
      dsimp only
      cases nat? 10 run <;> rfl

theorem bind_inBits?_eq_some_iff {radix bits : Nat} (hradix : radix ≤ 16) {digits : List Char}
    {v : Int32} :
    (nat? radix digits).bind (inBits? bits) = some v ↔
      ∃ n, (digits ≠ [] ∧ Writes radix digits n) ∧ n < 2 ^ bits ∧ Int32.ofNat n = v := by
  simp only [Option.bind_eq_some_iff, nat?_eq_some_iff hradix, inBits?,
    Option.ite_none_right_eq_some, Option.some.injEq]

/-- **A run is worth what it says as a literal**, and no other run is worth anything. -/
theorem number?_eq_some_iff {run : List Char} {v : Int32} :
    number? run = some v ↔ Literal run v := by
  rw [number?_eq]
  constructor
  · intro h
    split at h
    · rename_i digits hhex
      obtain ⟨n, ⟨hne, hn⟩, hmax, hv⟩ := (bind_inBits?_eq_some_iff (by decide)).mp h
      obtain ⟨mark, hmark, rfl⟩ := hexDigits?_eq_some_iff.mp hhex
      exact .hex hmark 0 hne hn hmax ((ofNat_eq_iff_bits hmax v).mp hv)
    · obtain ⟨n, ⟨hne, hn⟩, hmax, hv⟩ := (bind_inBits?_eq_some_iff (by decide)).mp h
      exact .decimal 0 hne hn (Nat.le_sub_one_of_lt hmax) ((ofNat_eq_iff_toInt hmax v).mp hv)
  · intro h
    cases h with
    | @decimal zeros digits n _ hne hn hmax hv =>
        have hzeros := hn.zeros (by decide) zeros
        have hlt : n < 2 ^ 31 := Nat.lt_of_le_sub_one (by decide) hmax
        rw [hexDigits?_of_writes hzeros]
        exact (bind_inBits?_eq_some_iff (by decide)).mpr
          ⟨n, ⟨by simp [hne], hzeros⟩, hlt, (ofNat_eq_iff_toInt hlt v).mpr hv⟩
    | @hex mark hmark zeros digits n _ hne hn hmax hv =>
        rw [hexDigits?_eq_some_iff.mpr ⟨mark, hmark, rfl⟩]
        exact (bind_inBits?_eq_some_iff (by decide)).mpr
          ⟨n, ⟨by simp [hne], hn.zeros (by decide) zeros⟩, hmax, (ofNat_eq_iff_bits hmax v).mpr hv⟩

theorem number?_eq_none_iff {run : List Char} : number? run = none ↔ ∀ v, ¬ Literal run v := by
  simp only [Option.eq_none_iff_forall_ne_some, ne_eq, number?_eq_some_iff]

instance (run : List Char) (v : Int32) : Decidable (Literal run v) :=
  decidable_of_iff _ number?_eq_some_iff

/-! ### Runs in a line -/

/-- A run of ASCII letters and digits that begins with a digit, as far as it goes in front of
`rest`. -/
structure NumberRun (run rest : List Char) : Prop where
  first   : ∃ c ∈ run.head?, c.isDigit
  alnum   : ∀ c ∈ run, c.isAlphanum
  maximal : ∀ c ∈ rest.head?, c.isAlphanum = false

namespace NumberRun
variable {c : Char} {run rest : List Char}

theorem exists_cons (h : NumberRun run rest) : ∃ c cs, run = c :: cs ∧ c.isDigit = true := by
  obtain ⟨c, hhead, hdigit⟩ := h.first
  obtain ⟨cs, rfl⟩ := List.head?_eq_some_iff.mp hhead
  exact ⟨c, cs, rfl, hdigit⟩

theorem more {cs : List Char} (h : NumberRun (c :: cs) rest) : ∀ d ∈ cs, isWordChar d :=
  fun d hd => h.alnum d (List.mem_cons_of_mem _ hd)

theorem stops (h : NumberRun run rest) : ∀ d ∈ rest.head?, isWordChar d = false := h.maximal

/-- A run that is worth something is scanned as a whole, up to `rest`. -/
theorem scanToken_of_some {cs : List Char} (h : NumberRun (c :: cs) rest) {v : Int32}
    (hv : number? (c :: cs) = some v) : scanToken c (cs ++ rest) = .ok (.num v, rest) := by
  obtain ⟨_, ⟨⟩, hdigit⟩ := h.first
  obtain ⟨htake, hdrop⟩ := takeWhile_run h.more h.stops
  rw [scanToken_of_isDigit hdigit (htake.symm ▸ hv), hdrop]

/-- A run that is worth nothing is named as a whole. -/
theorem scanToken_of_none {cs : List Char} (h : NumberRun (c :: cs) rest)
    (hv : number? (c :: cs) = none) :
    scanToken c (cs ++ rest) = .error (.badNumber (String.ofList (c :: cs))) := by
  obtain ⟨_, ⟨⟩, hdigit⟩ := h.first
  obtain ⟨htake, -⟩ := takeWhile_run h.more h.stops
  rw [scanToken_of_isDigit_error hdigit (htake.symm ▸ hv), htake]

/-- **From the front of a run the lexer goes to its end at once, or nowhere.** -/
theorem reaches_iff (h : NumberRun run rest) {ts : List Token} {cs : List Char} :
    Reaches (run ++ rest) ts cs ↔
      (ts = [] ∧ cs = run ++ rest) ∨
        ∃ v us, Literal run v ∧ ts = .num v :: us ∧ Reaches rest us cs := by
  obtain ⟨c, more, rfl, hdigit⟩ := h.exists_cons
  have hblank := isBlank_of_isNameChar (isNameChar_of_isDigit hdigit)
  simp only [← number?_eq_some_iff]
  constructor
  · intro hreach
    cases hreach with
    | refl => exact .inl ⟨rfl, rfl⟩
    | blank hc _ => cases hc.symm.trans hblank
    | token _ hscan t =>
        cases hv : number? (c :: more) with
        | some v =>
            cases hscan.symm.trans (h.scanToken_of_some hv)
            exact .inr ⟨v, _, rfl, rfl, t⟩
        | none => cases hscan.symm.trans (h.scanToken_of_none hv)
  · rintro (⟨rfl, rfl⟩ | ⟨v, us, hv, rfl, t⟩)
    · exact .refl _
    · exact .token hblank (h.scanToken_of_some hv) t

theorem tokens_refused (h : NumberRun run rest) (hnone : ∀ v, ¬ Literal run v) :
    tokens (run ++ rest) = .error (.badNumber (String.ofList run)) := by
  obtain ⟨c, more, rfl, hdigit⟩ := h.exists_cons
  have hblank := isBlank_of_isNameChar (isNameChar_of_isDigit hdigit)
  exact tokens_of_scanToken_error hblank (h.scanToken_of_none (number?_eq_none_iff.mpr hnone))

variable {line : List Char} {ts : List Token}

/-- Where the lexer stands in front of a run, it reads the run as one number exactly if the run is a
literal of that number. -/
theorem reaches_number (h : NumberRun run rest) (hreach : Reaches line ts (run ++ rest))
    (v : Int32) : Reaches line (ts ++ [.num v]) rest ↔ Literal run v := by
  constructor
  · intro hnumber
    rcases hreach.linear hnumber with ⟨more, hmore, hrun⟩ | ⟨more, hmore, -⟩
    · obtain rfl := List.append_cancel_left hmore
      rcases h.reaches_iff.mp hrun with ⟨hnil, -⟩ | ⟨v', us, hv, heq, -⟩
      · cases hnil
      · cases heq
        exact hv
    · exact absurd (congrArg List.length hmore) (by simp)
  · intro hv
    exact hreach.trans (h.reaches_iff.mpr (.inr ⟨v, [], hv, rfl, .refl _⟩))

/-- Where the lexer stands in front of a run, it stands nowhere within it. -/
theorem suffix_or_suffix (h : NumberRun run rest) (hreach : Reaches line ts (run ++ rest))
    {us : List Token} {cs : List Char} (hcs : Reaches line us cs) :
    run ++ rest <:+ cs ∨ cs <:+ rest := by
  rcases hreach.linear hcs with ⟨more, -, hrun⟩ | ⟨more, -, hrun⟩
  · rcases h.reaches_iff.mp hrun with ⟨-, rfl⟩ | ⟨v, us, -, -, t⟩
    · exact .inl (List.suffix_refl _)
    · exact .inr t.suffix
  · exact .inl hrun.suffix

end NumberRun

/-- What becomes of the run between `front` and `rest`, where the tokens of `front` are `ts`. -/
structure ReadsRun (front run rest : String) (ts : List Token) : Prop where
  /-- It is one number exactly where it is a literal of that number. -/
  number : ∀ v, Reaches (front ++ run ++ rest).toList (ts ++ [.num v]) rest.toList ↔
    Literal run.toList v
  /-- What follows a literal is read as if it were a line of its own. -/
  literal : ∀ v, Literal run.toList v →
    tokenize (front ++ run ++ rest) = (ts ++ .num v :: ·) <$> tokenize rest
  /-- A run that is no literal is the fault of the line, whatever follows it. -/
  refused : (∀ v, ¬ Literal run.toList v) →
    tokenize (front ++ run ++ rest) = .error (.badNumber run) ∧
      (CommandError.malformed (.badNumber run)).message = "syntax: bad number '" ++ run ++ "'"
  /-- The lexer stands nowhere within the run. -/
  whole : ∀ us cs, Reaches (front ++ run ++ rest).toList us cs →
    (run ++ rest).toList <:+ cs ∨ cs <:+ rest.toList

/-- **Integer literals are read exactly.**

The lexer comes to stand in front of a run exactly if the text before is read and does not end
within a name or a number.  From there it reads the run as one number exactly if the run is a literal
of that number, and what follows is read as it is alone; if the run is no literal, nothing of the
line is read, and the fault names the run.  The lexer never stands within the run. -/
theorem literals_exact {front run rest : String} (h : NumberRun run.toList rest.toList)
    (ts : List Token) :
    (Reaches (front ++ run ++ rest).toList ts (run ++ rest).toList ↔
      tokenize front = .ok ts ∧ ∀ c ∈ front.toList.getLast?, isNameChar c = false) ∧
    (Reaches (front ++ run ++ rest).toList ts (run ++ rest).toList →
      ReadsRun front run rest ts) := by
  have hline : (front ++ run ++ rest).toList = front.toList ++ (run ++ rest).toList := by
    rw [String.append_assoc, String.toList_append]
  have hrest : (run ++ rest).toList = run.toList ++ rest.toList := String.toList_append
  refine ⟨?_, fun hreach => ?_⟩
  · obtain ⟨c, more, heq, -⟩ := h.exists_cons
    have hhead : c ∈ (run ++ rest).toList.head? := by
      rw [hrest, heq]
      rfl
    rw [hline]
    exact reaches_iff hhead (h.alnum c (by simp [heq]))
  · rw [hrest] at hreach
    have hnumber := h.reaches_number hreach
    refine ⟨hnumber, fun v hv => ?_, fun hnone => ⟨?_, rfl⟩, fun us cs hcs => ?_⟩
    · rw [tokenize, ((hnumber v).mpr hv).tokens_eq, tokenize]
      simp only [List.append_assoc, List.singleton_append]
    · rw [tokenize, hreach.tokens_eq, h.tokens_refused hnone, String.ofList_toList]
      rfl
    · rw [hrest]
      exact h.suffix_or_suffix hreach hcs

/-- Two runs at their limits: eight zeros and the largest number of 32 bits in base sixteen, and the
least number of base ten that has more than 31 bits. -/
theorem literals_exact_limits :
    NumberRun "0X00000000FFFFffff".toList ",2147483648)".toList ∧
      Literal "0X00000000FFFFffff".toList (-1) ∧
      Reaches "pinMode(0X00000000FFFFffff,2147483648)".toList [.ident "pinMode", .lparen, .num (-1)]
        ",2147483648)".toList ∧
      NumberRun "2147483648".toList ")".toList ∧
      (∀ v, ¬ Literal "2147483648".toList v) ∧
      tokenize "pinMode(0X00000000FFFFffff,2147483648)" = .error (.badNumber "2147483648") := by
  have hhex : NumberRun "0X00000000FFFFffff".toList ",2147483648)".toList :=
    ⟨⟨'0', rfl, by decide⟩, List.all_eq_true.mp (by decide), by rintro _ ⟨⟩; decide⟩
  have hdecimal : NumberRun "2147483648".toList ")".toList :=
    ⟨⟨'2', rfl, by decide⟩, List.all_eq_true.mp (by decide), by rintro _ ⟨⟩; decide⟩
  have hlit : Literal "0X00000000FFFFffff".toList (-1) := by decide
  have hnone : ∀ v, ¬ Literal "2147483648".toList v := number?_eq_none_iff.mp (by decide)
  have hfront := @literals_exact "pinMode(" _ _ hhex [.ident "pinMode", .lparen]
  have hback := @literals_exact "pinMode(0X00000000FFFFffff," _ _ hdecimal
    [.ident "pinMode", .lparen, .num (-1), .comma]
  refine ⟨hhex, hlit, ?_, hdecimal, hnone, ?_⟩
  · exact ((hfront.2 (hfront.1.mpr ⟨by cbv, by rintro _ ⟨⟩; decide⟩)).number (-1)).mpr hlit
  · exact ((hback.2 (hback.1.mpr ⟨by cbv, by rintro _ ⟨⟩; decide⟩)).refused hnone).1

end BoardConsole.Lexer
