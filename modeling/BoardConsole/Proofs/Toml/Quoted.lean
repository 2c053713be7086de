import BoardConsole.Proofs.Text.Number
import BoardConsole.Toml.Quoted

/-!
# Toml — Texts in quotes, read back

* `read_quote`: whatever characters a text holds, the form that it is written in is read as that
  text, and what follows the closing quote is left.

In the forms with escapes every character stands for itself or follows a backslash
(`escaped_cases`), and the readers take either (`readBasic_escaped`, `readLines_escapeLines`); the
forms without escapes are chosen only where each character may stand for itself (`form_literal`,
`form_literalLines`).  In the forms of several lines quotes are read in groups, so the inductions
carry the number of quotes that were written and not yet read: at most two, since a third in a row
is escaped or ends the text.
-/

namespace BoardConsole.Toml.Quoted

/-! ### Escapes -/

/-- After a backslash, `e` stands for `c`, and does not continue the line. -/
structure Escapes (e : List Char) (c : Char) : Prop where
  read      (rest : List Char) : escape? (e ++ rest) = some (c, rest)
  continues (rest : List Char) : continued? (e ++ rest) = none

/-- A character that neither ends a line nor is a blank inside one. -/
def isInk (c : Char) : Bool := !isSpace c && c != '\n' && c != '\r'

theorem isSpace_of_isInk {c : Char} (h : isInk c = true) : isSpace c = false := by
  simp only [isInk, Bool.and_eq_true, Bool.not_eq_true'] at h
  exact h.1.1

theorem lineEnd?_of_isInk {c : Char} (h : isInk c = true) (cs : List Char) :
    lineEnd? (c :: cs) = none := by
  unfold lineEnd?
  split <;> simp_all [isInk]

theorem continued?_of_isInk {c : Char} (h : isInk c = true) (cs : List Char) :
    continued? (c :: cs) = none := by
  rw [continued?, List.dropWhile_cons_of_neg (by simp [isSpace_of_isInk h]), lineEnd?_of_isInk h]
  rfl

theorem lineEnd?_of_not_isControl {c : Char} (h : isControl c = false) (cs : List Char) :
    lineEnd? (c :: cs) = none := by
  unfold lineEnd?
  split <;> simp_all [isControl]

/-- An escape of one letter. -/
theorem escapes_letter {d c : Char} (hd : isInk d = true)
    (h : ∀ rest, escape? (d :: rest) = some (c, rest)) : Escapes [d] c :=
  ⟨h, fun rest => continued?_of_isInk hd rest⟩

/-- The digits that a control character is written with. -/
def controlDigits (c : Char) : List Char := (Text.paddedDigits 16 4 c.toNat).map Char.toUpper

theorem controlDigits_eq {c : Char} (h : isControl c = true) :
    (controlDigits c).length = 4 ∧ codePoint? (controlDigits c) = some c := by
  -- Control characters are few: each of them is looked at.
  have hsmall : ∀ n < 128, isControl (Char.ofNat n) = true →
      (controlDigits (Char.ofNat n)).length = 4 ∧
        codePoint? (controlDigits (Char.ofNat n)) = some (Char.ofNat n) := by
    decide +kernel
  have hlt : c.toNat < 128 := by
    simp only [isControl, Bool.or_eq_true, Bool.and_eq_true, decide_eq_true_eq, beq_iff_eq] at h
    omega
  have hc := hsmall c.toNat hlt
  rw [Char.ofNat_toNat] at hc
  exact hc h

theorem escapes_control {c : Char} (h : isControl c = true) :
    Escapes ('u' :: controlDigits c) c := by
  obtain ⟨hlength, hcode⟩ := controlDigits_eq h
  refine ⟨fun rest => ?_, fun rest => continued?_of_isInk (by decide) _⟩
  have htake : (controlDigits c ++ rest).take 4 = controlDigits c := by
    rw [← hlength, List.take_left]
  have hdrop : (controlDigits c ++ rest).drop 4 = rest := by
    rw [← hlength, List.drop_left]
  rw [List.cons_append, escape?, unicode?, htake, hdrop, if_pos hlength, hcode]
  rfl

/-- **How a character stands** in a form with escapes: as itself, or escaped. -/
theorem escaped_cases (c : Char) :
    escaped c = [c] ∧ c ≠ '\\' ∧ isControl c = false ∨
      ∃ e, escaped c = '\\' :: e ∧ Escapes e c := by
  unfold escaped
  split
  next h => exact h ▸ .inr ⟨_, rfl, escapes_letter (by decide) fun _ => rfl⟩
  split
  next h => exact h ▸ .inr ⟨_, rfl, escapes_letter (by decide) fun _ => rfl⟩
  split
  next h => exact h ▸ .inr ⟨_, rfl, escapes_letter (by decide) fun _ => rfl⟩
  split
  next h => exact h ▸ .inr ⟨_, rfl, escapes_letter (by decide) fun _ => rfl⟩
  split
  next h =>
    subst h
    exact .inr ⟨_, rfl, escapes_letter (by decide) fun _ => rfl⟩
  next hbackslash =>
    split
    next h => exact .inr ⟨_, rfl, escapes_control h⟩
    next h => exact .inl ⟨rfl, hbackslash, Bool.not_eq_true _ ▸ h⟩

theorem escapedInLine_cases (c : Char) :
    escapedInLine c = [c] ∧ c ≠ '"' ∧ c ≠ '\\' ∧ isControl c = false ∨
      ∃ e, escapedInLine c = '\\' :: e ∧ Escapes e c := by
  unfold escapedInLine
  split
  next h =>
    subst h
    exact .inr ⟨_, rfl, escapes_letter (by decide) fun _ => rfl⟩
  next hquote =>
    split
    next h => exact h ▸ .inr ⟨_, rfl, escapes_letter (by decide) fun _ => rfl⟩
    next => exact (escaped_cases c).imp_left fun h => ⟨h.1, hquote, h.2⟩

/-! ### One line -/

theorem length_le_flatMap_escapedInLine (cs : List Char) :
    cs.length ≤ (cs.flatMap escapedInLine).length := by
  induction cs with
  | nil => exact Nat.le_refl _
  | cons c cs ih =>
      have hpos : 1 ≤ (escapedInLine c).length := by
        rcases escapedInLine_cases c with ⟨h, -⟩ | ⟨e, h, -⟩ <;> simp [h]
      rw [List.flatMap_cons, List.length_append, List.length_cons]
      omega

/-- **Double quotes with escapes** hold any text. -/
theorem readBasic_escaped (cs rest : List Char) {fuel : Nat} (hfuel : cs.length < fuel) :
    readBasic fuel (cs.flatMap escapedInLine ++ '"' :: rest) = some (cs, rest) := by
  induction cs generalizing fuel with
  | nil =>
      obtain ⟨fuel, rfl⟩ := Nat.exists_eq_add_of_lt hfuel
      rfl
  | cons c cs ih =>
      obtain ⟨fuel, rfl⟩ : ∃ k, fuel = k + 1 := ⟨fuel - 1, by omega⟩
      have hnext := ih (show cs.length < fuel by simpa using hfuel)
      rw [List.flatMap_cons, List.append_assoc]
      rcases escapedInLine_cases c with ⟨h, hquote, hbackslash, hcontrol⟩ | ⟨e, h, he⟩
      · rw [h, List.singleton_append, readBasic, if_neg hquote, if_neg hbackslash,
          if_neg (by simp [hcontrol]), hnext]
        rfl
      · rw [h, List.cons_append, readBasic, if_neg (by decide), if_pos rfl, he.read]
        simp only [hnext]
        rfl

/-- **Single quotes** hold a text without them and without control characters. -/
theorem readLiteral_append {cs : List Char} (h : ∀ c ∈ cs, c ≠ '\'' ∧ isControl c = false)
    (rest : List Char) : readLiteral (cs ++ '\'' :: rest) = some (cs, rest) := by
  induction cs with
  | nil => rfl
  | cons c cs ih =>
      rw [List.forall_mem_cons] at h
      rw [List.cons_append, readLiteral, if_neg h.1.1, if_neg (by simp [h.1.2]), ih h.2]
      rfl

/-! ### Several lines -/

/-- One character of a text in tripled quotes, however it is written. -/
structure Stands (q : Char) (written : List Char) (c : Char) : Prop where
  starts : ∃ d more, written = d :: more ∧ d ≠ q
  read (fuel : Nat) (rest : List Char) :
    readLines q (fuel + 1) (written ++ rest) = (readLines q fuel rest).push [c]

theorem stands_newline {q : Char} (hq : q ≠ '\n') : Stands q ['\n'] '\n' where
  starts := ⟨_, _, rfl, Ne.symm hq⟩
  read fuel rest := by
    rw [List.singleton_append, readLines, if_neg (Ne.symm hq), if_neg (by simp)]
    rfl

theorem stands_self {q c : Char} (hq : c ≠ q) (hbackslash : q = '"' → c ≠ '\\')
    (hcontrol : isControl c = false) : Stands q [c] c where
  starts := ⟨_, _, rfl, hq⟩
  read fuel rest := by
    rw [List.singleton_append, readLines, if_neg hq, if_neg fun h => hbackslash h.2 h.1,
      lineEnd?_of_not_isControl hcontrol]
    exact if_neg (by simp [hcontrol])

theorem stands_escape {e : List Char} {c : Char} (he : Escapes e c) : Stands '"' ('\\' :: e) c where
  starts := ⟨_, _, rfl, by decide⟩
  read fuel rest := by
    rw [List.cons_append, readLines, if_neg (by decide), if_pos ⟨rfl, rfl⟩, he.continues, he.read]

/-- Quotes that the characters begin with are counted, up to five of them. -/
theorem splitQuotes_replicate {q : Char} {n : Nat} (hn : n ≤ 5) {rest : List Char}
    (hrest : rest.head? ≠ some q) : splitQuotes q (List.replicate n q ++ rest) = (n, rest) := by
  have hstop : rest.takeWhile (· == q) = [] := by
    cases rest with
    | nil => rfl
    | cons c rest => exact List.takeWhile_cons_of_neg (by simpa using hrest)
  have hrun : ((List.replicate n q ++ rest).takeWhile (· == q)).length = n := by
    rw [List.takeWhile_append_of_pos fun c hc => by simp [List.eq_of_mem_replicate hc], hstop]
    simp
  have hdrop : (List.replicate n q ++ rest).drop n = rest := List.drop_left' List.length_replicate
  rw [splitQuotes, hrun, Nat.min_eq_right hn, hdrop]

/-- Fewer than three quotes are read as themselves. -/
theorem readLines_quotes {q : Char} {run n : Nat} (hrun : run ≤ 2) {cs text rest : List Char}
    (hcs : cs.head? ≠ some q)
    (h : ∀ fuel, n < fuel → readLines q fuel cs = some (text, rest)) {fuel : Nat}
    (hfuel : run + n < fuel) :
    readLines q fuel (List.replicate run q ++ cs) = some (List.replicate run q ++ text, rest) := by
  cases run with
  | zero => exact h fuel (by omega)
  | succ run =>
      obtain ⟨fuel, rfl⟩ : ∃ k, fuel = k + 1 := ⟨fuel - 1, by omega⟩
      have hsplit := splitQuotes_replicate (q := q) (n := run + 1) (by omega) hcs
      rw [List.replicate_succ, List.cons_append] at hsplit ⊢
      rw [readLines, if_pos rfl, hsplit]
      dsimp only
      rw [if_neg (by omega), h fuel (by omega)]
      rfl

/-- Three quotes end a text; up to two before them belong to it. -/
theorem readLines_closing {q : Char} {run : Nat} (hrun : run ≤ 2) {rest : List Char}
    (hrest : rest.head? ≠ some q) {fuel : Nat} (hfuel : 0 < fuel) :
    readLines q fuel (List.replicate run q ++ q :: q :: q :: rest)
      = some (List.replicate run q, rest) := by
  obtain ⟨fuel, rfl⟩ : ∃ k, fuel = k + 1 := ⟨fuel - 1, by omega⟩
  have hsplit := splitQuotes_replicate (q := q) (n := run + 3) (by omega) hrest
  have hall : List.replicate run q ++ q :: q :: q :: rest
      = q :: (List.replicate (run + 2) q ++ rest) := by
    rw [← List.cons_append, ← List.replicate_succ, List.replicate_succ', List.replicate_succ',
      List.replicate_succ']
    simp
  rw [List.replicate_succ, List.cons_append] at hsplit
  rw [hall, readLines, if_pos rfl, hsplit]
  dsimp only
  rw [if_pos (by omega), Nat.add_sub_cancel]

/-- One more character, however it is written, after up to two quotes. -/
theorem readLines_cons {q c : Char} {run n : Nat} (hrun : run ≤ 2)
    {written cs text rest : List Char} (hc : Stands q written c)
    (h : ∀ fuel, n < fuel → readLines q fuel cs = some (text, rest)) {fuel : Nat}
    (hfuel : run + (n + 1) < fuel) :
    readLines q fuel (List.replicate run q ++ (written ++ cs))
      = some (List.replicate run q ++ c :: text, rest) := by
  have hstarts : (written ++ cs).head? ≠ some q := by
    obtain ⟨d, more, hwritten, hd⟩ := hc.starts
    rw [hwritten, List.cons_append, List.head?_cons]
    exact fun h => hd (Option.some.inj h)
  refine readLines_quotes hrun hstarts (fun fuel hfuel => ?_) hfuel
  obtain ⟨fuel, rfl⟩ : ∃ k, fuel = k + 1 := ⟨fuel - 1, by omega⟩
  rw [hc.read, h fuel (by omega)]
  rfl

theorem length_le_escapeLines (run : Nat) (cs : List Char) :
    cs.length ≤ (escapeLines run cs).length := by
  induction cs generalizing run with
  | nil => exact Nat.le_refl _
  | cons c cs ih =>
      have hpos : 1 ≤ (escaped c).length := by
        rcases escaped_cases c with ⟨h, -⟩ | ⟨e, h, -⟩ <;> simp [h]
      have hrun := ih (run + 1)
      have hzero := ih 0
      rw [escapeLines]
      split_ifs <;> simp only [List.length_cons, List.length_append] <;> omega

/-- **Tripled double quotes** hold any text. -/
theorem readLines_escapeLines {rest : List Char} (hrest : rest.head? ≠ some '"') (cs : List Char)
    {run : Nat} (hrun : run ≤ 2) {fuel : Nat} (hfuel : run + cs.length < fuel) :
    readLines '"' fuel (List.replicate run '"' ++ (escapeLines run cs ++ '"' :: '"' :: '"' :: rest))
      = some (List.replicate run '"' ++ cs, rest) := by
  induction cs generalizing run fuel with
  | nil =>
      rw [List.append_nil]
      exact readLines_closing hrun hrest (by omega)
  | cons c cs ih =>
      have hzero : ∀ fuel, cs.length < fuel →
          readLines '"' fuel (escapeLines 0 cs ++ '"' :: '"' :: '"' :: rest) = some (cs, rest) :=
        fun fuel hfuel => ih (Nat.zero_le 2) (by omega)
      rw [escapeLines]
      split
      next hquote =>
        subst hquote
        split
        next htwo =>
          -- The third quote in a row follows a backslash, so the two before it are read alone.
          exact readLines_cons hrun (stands_escape (escapes_letter (by decide) fun _ => rfl)) hzero
            hfuel
        next hless =>
          -- One quote more is held back until it is known what ends the run.
          rw [List.length_cons] at hfuel
          have hnext := ih (show run + 1 ≤ 2 by omega) (show run + 1 + cs.length < fuel by omega)
          rw [List.replicate_succ'] at hnext
          simpa using hnext
      next hquote =>
        split
        next hnewline =>
          subst hnewline
          exact readLines_cons hrun (stands_newline (by decide)) hzero hfuel
        next hnewline =>
          rw [List.append_assoc]
          rcases escaped_cases c with ⟨h, hbackslash, hcontrol⟩ | ⟨e, h, he⟩
          · rw [h]
            exact readLines_cons hrun (stands_self hquote (fun _ => hbackslash) hcontrol) hzero
              hfuel
          · rw [h]
            exact readLines_cons hrun (stands_escape he) hzero hfuel

theorem le_longestRun (q : Char) (run longest : Nat) (cs : List Char) :
    max run longest ≤ longestRun q run longest cs := by
  induction cs generalizing run longest with
  | nil => exact Nat.le_refl _
  | cons c cs ih =>
      rw [longestRun]
      split
      · have := ih (run + 1) longest
        omega
      · have := ih 0 (max run longest)
        omega

theorem notMem_of_longestRun {q : Char} {run longest : Nat} {cs : List Char}
    (h : longestRun q run longest cs = 0) : q ∉ cs := by
  induction cs generalizing run longest with
  | nil => simp
  | cons c cs ih =>
      rw [longestRun] at h
      split at h
      · have := le_longestRun q (run + 1) longest cs
        omega
      · rename_i hc
        rw [List.mem_cons, not_or]
        exact ⟨Ne.symm hc, ih h⟩

/-- **Tripled single quotes** hold a text without a third quote in a row and without control
characters other than newlines. -/
theorem readLines_append {rest : List Char} (hrest : rest.head? ≠ some '\'') {cs : List Char}
    (hcontrol : ∀ c ∈ cs, isControl c = true → c = '\n') {run longest : Nat}
    (hruns : longestRun '\'' run longest cs ≤ 2) {fuel : Nat} (hfuel : run + cs.length < fuel) :
    readLines '\'' fuel (List.replicate run '\'' ++ (cs ++ '\'' :: '\'' :: '\'' :: rest))
      = some (List.replicate run '\'' ++ cs, rest) := by
  have hrun : run ≤ 2 :=
    Nat.le_trans (Nat.le_max_left _ _) (Nat.le_trans (le_longestRun _ run longest cs) hruns)
  induction cs generalizing run longest fuel with
  | nil => exact List.append_nil _ ▸ readLines_closing hrun hrest (by omega)
  | cons c cs ih =>
      rw [List.forall_mem_cons] at hcontrol
      rw [longestRun] at hruns
      split at hruns
      next hquote =>
        -- The run never passes two, since the longest run of the text does not.
        subst hquote
        rw [List.length_cons] at hfuel
        have hnext := ih hcontrol.2 hruns (show run + 1 + cs.length < fuel by omega)
          (Nat.le_trans (Nat.le_max_left _ _) (Nat.le_trans (le_longestRun _ _ longest cs) hruns))
        rw [List.replicate_succ'] at hnext
        simpa using hnext
      next hquote =>
        have hzero : ∀ fuel, cs.length < fuel →
            readLines '\'' fuel (cs ++ '\'' :: '\'' :: '\'' :: rest) = some (cs, rest) :=
          fun fuel hfuel => ih hcontrol.2 hruns (by omega) (Nat.zero_le 2)
        have hc : Stands '\'' [c] c := by
          by_cases hnewline : c = '\n'
          · exact hnewline ▸ stands_newline (by decide)
          · exact stands_self hquote (fun h => absurd h (by decide))
              (Bool.eq_false_iff.2 (mt hcontrol.1 hnewline))
        exact readLines_cons hrun hc hzero hfuel

/-! ### The form of a text -/

theorem form_literal {cs : List Char} (h : form cs = .literal) :
    ∀ c ∈ cs, c ≠ '\'' ∧ isControl c = false := by
  unfold form at h
  dsimp only at h
  split_ifs at h with _ hplain
  simp only [Bool.and_eq_true, Bool.not_eq_true', List.any_eq_false, bne_iff_ne, beq_iff_eq,
    not_and, not_not, List.contains_eq_mem, decide_eq_false_iff_not] at hplain
  obtain ⟨⟨hcontrol, hsingle⟩, hnewline⟩ := hplain
  intro c hc
  refine ⟨fun h => notMem_of_longestRun hsingle (h ▸ hc), Bool.eq_false_iff.2 fun h => ?_⟩
  exact hnewline (hcontrol c hc h ▸ hc)

theorem form_literalLines {cs : List Char} (h : form cs = .literalLines) :
    (∀ c ∈ cs, isControl c = true → c = '\n') ∧ longestRun '\'' 0 0 cs ≤ 2 := by
  unfold form at h
  dsimp only at h
  split_ifs at h with _ _ _ hplain
  simpa only [Bool.and_eq_true, Bool.not_eq_true', List.any_eq_false, bne_iff_ne,
    not_and, not_not, decide_eq_true_eq] using hplain

/-! ### A text in quotes -/

/-- One pair of quotes is not the beginning of three. -/
theorem take_two_ne {q : Char} {inner rest : List Char} (hrest : rest.head? ≠ some q)
    (hinner : inner.head? ≠ some q) : (inner ++ q :: rest).take 2 ≠ [q, q] := by
  cases inner with
  | nil =>
      cases rest with
      | nil => simp
      | cons c rest => simpa using hrest
  | cons c inner =>
      intro h
      exact hinner (by simp_all)

theorem head?_flatMap_escapedInLine (cs : List Char) :
    (cs.flatMap escapedInLine).head? ≠ some '"' := by
  cases cs with
  | nil => simp
  | cons c cs =>
      rw [List.flatMap_cons]
      rcases escapedInLine_cases c with ⟨h, hquote, -⟩ | ⟨e, h, -⟩
      · simpa [h] using hquote
      · simp [h]

/-- Without newlines, a text in tripled single quotes does not begin with a line end. -/
theorem lineEnd?_of_plain {cs : List Char} (hcontrol : ∀ c ∈ cs, isControl c = true → c = '\n')
    (h : '\n' ∉ cs) (rest : List Char) : lineEnd? (cs ++ '\'' :: rest) = none := by
  cases cs with
  | nil => rfl
  | cons c cs =>
      rw [List.forall_mem_cons] at hcontrol
      rw [List.mem_cons, not_or] at h
      exact lineEnd?_of_not_isControl
        (Bool.eq_false_iff.2 fun hc => h.1 (hcontrol.1 hc).symm) _

/-- Nor does one in tripled double quotes. -/
theorem lineEnd?_escapeLines {cs : List Char} (h : '\n' ∉ cs) (rest : List Char) :
    lineEnd? (escapeLines 0 cs ++ '"' :: rest) = none := by
  cases cs with
  | nil => rfl
  | cons c cs =>
      rw [List.mem_cons, not_or] at h
      rw [escapeLines]
      split
      · rfl
      · rw [if_neg (Ne.symm h.1)]
        rcases escaped_cases c with ⟨hself, -, hcontrol⟩ | ⟨e, hescaped, -⟩
        · rw [hself]
          exact lineEnd?_of_not_isControl hcontrol _
        · rw [hescaped]
          rfl

/-- A text in tripled quotes, with a newline in front where it holds one. -/
theorem read_tripled {q : Char} {cs body rest : List Char}
    (hbody : ∀ fuel, cs.length < fuel → readLines q fuel body = some (cs, rest))
    (hlength : cs.length ≤ body.length) (hplain : '\n' ∉ cs → lineEnd? body = none) :
    read q (q :: q :: (opening cs ++ body)) = some (cs, rest) := by
  have hstripped : (lineEnd? (opening cs ++ body)).getD (opening cs ++ body) = body := by
    by_cases hnewline : '\n' ∈ cs
    · simp [opening, hnewline, lineEnd?]
    · simp [opening, hnewline, hplain hnewline]
  rw [read, if_pos (show List.take 2 (q :: q :: _) = [q, q] from rfl)]
  rw [show List.drop 2 (q :: q :: (opening cs ++ body)) = opening cs ++ body from rfl]
  dsimp only
  rw [hstripped]
  exact hbody _ (by rw [List.length_append]; omega)

/-- **A text in quotes is read back**, whatever characters it holds. -/
theorem read_quote (cs : List Char) {rest : List Char} (hdouble : rest.head? ≠ some '"')
    (hsingle : rest.head? ≠ some '\'') :
    ∃ q inner, (q = '"' ∨ q = '\'') ∧ quote cs = q :: inner ∧
      read q (inner ++ rest) = some (cs, rest) := by
  cases hform : form cs with
  | basic =>
      refine ⟨'"', cs.flatMap escapedInLine ++ ['"'], .inl rfl, by simp [quote, hform], ?_⟩
      rw [List.append_assoc, List.singleton_append, read,
        if_neg (take_two_ne hdouble (head?_flatMap_escapedInLine cs)), readLine, if_pos rfl]
      refine readBasic_escaped cs rest ?_
      have := length_le_flatMap_escapedInLine cs
      rw [List.length_append]
      omega
  | literal =>
      have hcs := form_literal hform
      refine ⟨'\'', cs ++ ['\''], .inr rfl, by simp [quote, hform], ?_⟩
      have hhead : cs.head? ≠ some '\'' := fun h => (hcs _ (List.mem_of_mem_head? h)).1 rfl
      rw [List.append_assoc, List.singleton_append, read, if_neg (take_two_ne hsingle hhead),
        readLine, if_neg (by decide), readLiteral_append hcs]
  | basicLines =>
      refine ⟨'"', '"' :: '"' :: (opening cs ++ (escapeLines 0 cs ++ ['"', '"', '"'])), .inl rfl,
        by simp [quote, hform], ?_⟩
      simp only [List.cons_append, List.append_assoc, List.nil_append]
      refine read_tripled (fun fuel hfuel => ?_) ?_ fun h => lineEnd?_escapeLines h _
      · exact readLines_escapeLines hdouble cs (Nat.zero_le 2) (by omega)
      · have := length_le_escapeLines 0 cs
        rw [List.length_append]
        omega
  | literalLines =>
      obtain ⟨hcontrol, hruns⟩ := form_literalLines hform
      refine ⟨'\'', '\'' :: '\'' :: (opening cs ++ (cs ++ ['\'', '\'', '\''])), .inr rfl,
        by simp [quote, hform], ?_⟩
      simp only [List.cons_append, List.append_assoc, List.nil_append]
      refine read_tripled (fun fuel hfuel => ?_) (by simp) fun h => ?_
      · exact readLines_append hsingle hcontrol hruns (by omega)
      · exact lineEnd?_of_plain hcontrol h _

end BoardConsole.Toml.Quoted
