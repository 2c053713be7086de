import BoardConsole.Proofs.Script.Lexing

/-!
# Script — Lines as bodies

Two pieces of the lexer read text literals and braces: one where they are tokens, and one where they
stand in a body.  They agree on every line that is read at all.

* `closes_of_scanToken`: to the scan for a body, what a token takes up is as if it were not there.
* `closes_of_tokens`: so a line that is read can stand between braces, and the body ends where the
  line does.
* `tokens_trim`: a line is read alike with the blanks at its ends removed.
* `tokens_braced`: so the body that it is read as there is read like the line itself.
-/

namespace BoardConsole.Lexer
open Text

/-! ### A token among braces -/

/-- A literal that is read is one to the scan for a body, too. -/
theorem closes_of_scanText {depth : Nat} {cs text rest : List Char}
    (h : scanText cs = some (text, rest)) : Closes depth true cs ↔ Closes depth false rest := by
  fun_induction scanText cs generalizing text rest
  case case1 => simp at h
  case case2 =>
      simp only [Option.some.injEq, Prod.mk.injEq] at h
      rw [Closes.eq_def]
      simp [h.2]
  case case3 => simp at h
  all_goals
    rename_i ih
    obtain ⟨⟨t, r⟩, ht, hr⟩ := Option.map_eq_some_iff.1 h
    simp only [Prod.mk.injEq] at hr
    obtain ⟨-, rfl⟩ := hr
    rw [← ih ht, Closes.eq_def]
    simp_all

/-- A body that stands inside another ends at its own brace, however many are open around it. -/
theorem Closes.nest {depth : Nat} {inText : Bool} {text : List Char} (h : Closes depth inText text)
    (outer : Nat) (rest : List Char) :
    Closes (outer + 1 + depth) inText (text ++ '}' :: rest) ↔ Closes outer false rest := by
  fun_induction Closes depth inText text
  case case1 =>
      obtain ⟨rfl, rfl⟩ := h
      rw [List.nil_append, Closes.eq_def]
      simp
  all_goals
    rw [List.cons_append, Closes.eq_def]
    simp_all [← Nat.add_assoc]

theorem ne_of_ofMark? {c : Char} {mark : Token} (h : Token.ofMark? c = some mark) :
    c ≠ '"' ∧ c ≠ '{' ∧ c ≠ '}' := by
  unfold Token.ofMark? at h
  split_ifs at h <;> subst_vars <;> decide

/-- A run of characters of names, taken off the front, makes no difference. -/
theorem closes_run {depth : Nat} {c : Char} {p : Char → Bool} (hp : ∀ c, p c → isNameChar c)
    (hc : isNameChar c) (cs : List Char) :
    Closes depth false (c :: cs) ↔ Closes depth false (cs.dropWhile p) := by
  have hsplit : c :: cs = (c :: cs.takeWhile p) ++ cs.dropWhile p := by
    rw [List.cons_append, List.takeWhile_append_dropWhile]
  rw [hsplit]
  refine closes_plain_append (List.forall_mem_cons.mpr ⟨ne_of_isNameChar hc, fun d hd => ?_⟩) _
  exact ne_of_isNameChar (hp d (List.mem_takeWhile_imp hd))

/-- **To the scan for a body, a token is as if it were not there.** -/
theorem closes_of_scanToken {depth : Nat} {c : Char} {cs rest : List Char} {tok : Token}
    (h : scanToken c cs = .ok (tok, rest)) :
    Closes depth false (c :: cs) ↔ Closes depth false rest := by
  cases scanned_of_scanToken h with
  | mark hmark =>
      exact closes_plain_append (List.forall_mem_singleton.mpr (ne_of_ofMark? hmark)) cs
  | text hquote hscan =>
      rw [← closes_of_scanText hscan, hquote, Closes.eq_def]
      simp
  | body hbrace hscan =>
      obtain ⟨rfl, hcloses⟩ := closes_of_scanBody hscan
      refine Iff.trans ?_ (hcloses.nest depth rest)
      rw [hbrace, Closes.eq_def]
      simp
  | number hdigit _ =>
      exact closes_run (fun _ => isNameChar_of_isWordChar) (isNameChar_of_isDigit hdigit) cs
  | name hstart => exact closes_run (fun _ => id) (isNameChar_of_isNameStart hstart) cs

/-- **A line that is read can stand between braces.** -/
theorem closes_of_tokens {cs : List Char} {ts : List Token} (h : tokens cs = .ok ts) :
    Closes 0 false cs := by
  induction cs using tokens.induct generalizing ts with
  | case1 => exact ⟨rfl, rfl⟩
  | case2 c cs hblank ih =>
      rw [tokens_blank hblank] at h
      exact (@closes_blanks_append _ [c] (by simpa using hblank) cs).mpr (ih h)
  | case3 c cs hblank tok rest hscan ih =>
      rw [tokens_of_scanToken (by simpa using hblank) hscan] at h
      cases hrest : tokens rest with
      | error fault =>
          rw [hrest] at h
          cases h
      | ok us => exact (closes_of_scanToken hscan).mpr (ih hrest)
  | case4 c cs hblank fault hscan =>
      rw [tokens_of_scanToken_error (by simpa using hblank) hscan] at h
      cases h

/-! ### Blanks at the ends -/

theorem tokens_blanks_append {blanks : List Char} (hblanks : ∀ c ∈ blanks, isBlank c)
    (cs : List Char) : tokens (blanks ++ cs) = tokens cs := by
  induction blanks with
  | nil => rfl
  | cons c blanks ih =>
      rw [List.forall_mem_cons] at hblanks
      rw [List.cons_append, tokens_blank hblanks.1, ih hblanks.2]

section Behind
variable {blanks : List Char}

/-- No literal ends in blanks. -/
theorem scanText_blanks (hblanks : ∀ c ∈ blanks, isBlank c) : scanText blanks = none := by
  induction blanks with
  | nil => rw [scanText]
  | cons c blanks ih =>
      rw [List.forall_mem_cons] at hblanks
      obtain ⟨hquote, hescape, -⟩ := ne_of_isBlank hblanks.1
      rw [scanText_other hquote hescape, ih hblanks.2]
      rfl

theorem scanText_append_blanks (hblanks : ∀ c ∈ blanks, isBlank c) (cs : List Char) :
    scanText (cs ++ blanks) = (scanText cs).map fun found => (found.1, found.2 ++ blanks) := by
  fun_induction scanText cs
  case case1 => exact scanText_blanks hblanks
  case case2 => exact scanText_quote _
  case case3 =>
      -- a backslash at the end takes the first blank with it
      rcases blanks with _ | ⟨c, blanks⟩
      · rw [List.append_nil, scanText]
        rfl
      · rw [List.forall_mem_cons] at hblanks
        rw [List.singleton_append, scanText_backslash, scanText_blanks hblanks.2]
        rfl
  case case4 d cs _ ih =>
      rw [List.cons_append, List.cons_append, scanText_backslash, ih, Option.map_map, Option.map_map]
      rfl
  case case5 c cs hquote hescape ih =>
      rw [List.cons_append, scanText_other hquote hescape, ih, Option.map_map, Option.map_map]
      rfl

theorem scanBody_append_blanks (hblanks : ∀ c ∈ blanks, isBlank c) (cs : List Char) :
    scanBody 0 false (cs ++ blanks)
      = (scanBody 0 false cs).map fun found => (found.1, found.2 ++ blanks) := by
  cases hscan : scanBody 0 false cs with
  | some found =>
      obtain ⟨rfl, hcloses⟩ := closes_of_scanBody hscan
      rw [List.append_assoc, List.cons_append, scanBody_of_closes hcloses]
      rfl
  | none =>
      rw [Option.map_none, Option.eq_none_iff_forall_ne_some]
      rintro ⟨text, rest⟩ hfound
      obtain ⟨heq, hcloses⟩ := closes_of_scanBody hfound
      have hbrace : '}' ∉ blanks := fun hmem => (ne_of_isBlank (hblanks _ hmem)).2.2.2 rfl
      rcases List.append_eq_append_iff.mp heq with ⟨more, -, hmore⟩ | ⟨more, hcs, hmore⟩
      · exact hbrace (hmore ▸ by simp)
      · rcases more with _ | ⟨c, more⟩
        · exact hbrace (by rw [List.nil_append] at hmore; simp [← hmore])
        · rw [List.cons_append, List.cons.injEq] at hmore
          rw [hcs, ← hmore.1, scanBody_of_closes hcloses] at hscan
          cases hscan

/-- A run of characters of names ends where the blanks begin. -/
theorem run_append_blanks (hblanks : ∀ c ∈ blanks, isBlank c) {p : Char → Bool}
    (hp : ∀ c, p c → isNameChar c) (cs : List Char) :
    (cs ++ blanks).takeWhile p = cs.takeWhile p ∧
      (cs ++ blanks).dropWhile p = cs.dropWhile p ++ blanks := by
  refine run_append (fun c hc => ?_) cs
  rw [Bool.eq_false_iff]
  intro hpc
  have hblank := isBlank_of_isNameChar (hp c hpc)
  rw [hblanks c (List.mem_of_head? hc)] at hblank
  cases hblank

theorem scanToken_append_blanks (hblanks : ∀ c ∈ blanks, isBlank c) (c : Char) (cs : List Char) :
    scanToken c (cs ++ blanks)
      = (fun found => (found.1, found.2 ++ blanks)) <$> scanToken c cs := by
  unfold scanToken
  cases Token.ofMark? c with
  | some mark => rfl
  | none =>
  by_cases hquote : c = '"'
  · simp only [if_pos hquote, scanText_append_blanks hblanks]
    cases scanText cs <;> rfl
  by_cases hbrace : c = '{'
  · simp only [if_neg hquote, if_pos hbrace, scanBody_append_blanks hblanks]
    cases scanBody 0 false cs <;> rfl
  by_cases hdigit : c.isDigit = true
  · obtain ⟨htake, hdrop⟩ := run_append_blanks hblanks (fun _ => isNameChar_of_isWordChar) cs
    simp only [if_neg hquote, if_neg hbrace, if_pos hdigit, htake, hdrop]
    cases number? (c :: cs.takeWhile isWordChar) <;> rfl
  by_cases hstart : isNameStart c = true
  · obtain ⟨htake, hdrop⟩ := @run_append_blanks _ hblanks isNameChar (fun _ => id) cs
    simp only [if_neg hquote, if_neg hbrace, if_neg hdigit, if_pos hstart, htake, hdrop]
    rfl
  · simp only [if_neg hquote, if_neg hbrace, if_neg hdigit, if_neg hstart]
    rfl

theorem tokens_append_blanks (hblanks : ∀ c ∈ blanks, isBlank c) (cs : List Char) :
    tokens (cs ++ blanks) = tokens cs := by
  induction cs using tokens.induct with
  | case1 =>
      have hread := tokens_blanks_append hblanks []
      rwa [List.append_nil] at hread
  | case2 c cs hblank ih => rw [List.cons_append, tokens_blank hblank, tokens_blank hblank, ih]
  | case3 c cs hblank tok rest hscan ih =>
      have hmore := scanToken_append_blanks hblanks c cs
      rw [hscan] at hmore
      rw [List.cons_append, tokens_of_scanToken (by simpa using hblank) hmore,
        tokens_of_scanToken (by simpa using hblank) hscan, ih]
  | case4 c cs hblank fault hscan =>
      have hmore := scanToken_append_blanks hblanks c cs
      rw [hscan] at hmore
      rw [List.cons_append, tokens_of_scanToken_error (by simpa using hblank) hmore,
        tokens_of_scanToken_error (by simpa using hblank) hscan]

end Behind

/-- **Blanks at the ends of a line change nothing of how it is read**, or of the fault in it. -/
theorem tokens_trim (cs : List Char) : tokens (trim cs) = tokens cs := by
  obtain ⟨front, back, heq, hfront, hback⟩ := exists_trim cs
  conv_rhs => rw [heq, List.append_assoc]
  rw [tokens_blanks_append hfront, tokens_append_blanks hback]

/-! ### Bodies -/

/-- **A line that is read, put between braces, is read as a body that is read like the line.** -/
theorem tokens_braced {text : String} {ts : List Token} (h : tokenize text = .ok ts)
    (rest : List Char) :
    ∃ body : String, tokens ('{' :: (text.toList ++ '}' :: rest)) = (.body body :: ·) <$> tokens rest ∧
      tokenize body = tokenize text := by
  refine ⟨String.ofList (trim text.toList), ?_, ?_⟩
  · refine tokens_of_scanToken (by decide) ?_
    rw [scanToken_brace, scanBody_of_closes (closes_of_tokens h)]
  · rw [tokenize, String.toList_ofList, tokens_trim, tokenize]

end BoardConsole.Lexer
