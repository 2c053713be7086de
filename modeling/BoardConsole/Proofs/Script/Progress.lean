import BoardConsole.Proofs.Script.Lexing

/-!
# Script — How far a line is read

The lexer goes from the front of a line to its end, over a blank or a token at a time.
`Reaches cs ts rest` says that on its way through `cs` it stands in front of `rest`, and has read the
tokens `ts` by then.

A token is read in front of whatever it does not go on with (`exists_lexeme`), and only numbers and
names go on at all.  So the text before a place alone tells whether the lexer comes to stand there.

* `Reaches.tokens_eq`: what is read behind that place is read as if it were a line of its own.
* `Reaches.linear`: of two places, one is reached from the other.
* `reaches_append`: behind a line that is read the lexer comes to stand, if no name goes on there.
* `reaches_iff`: in front of a letter or a digit it comes to stand only there.
* `tokens_append_semi`: what stands behind a semicolon is read as if it were a line of its own.
-/

namespace BoardConsole.Lexer
open Text

/-! ### What follows a token -/

/-- The characters that a token goes on with. -/
def goesOn : Token → Char → Bool
  | .num _   => isWordChar
  | .ident _ => isNameChar
  | _        => fun _ => false

/-- A token can end in front of `rest`. -/
def Stops (tok : Token) (rest : List Char) : Prop := ∀ c ∈ rest.head?, goesOn tok c = false

theorem goesOn_of_ofMark? {c : Char} {mark : Token} (h : Token.ofMark? c = some mark) (d : Char) :
    goesOn mark d = false := by
  have hmarks := ofMark?_eq_some h
  simp only [List.mem_cons, List.not_mem_nil, or_false] at hmarks
  rcases hmarks with rfl | rfl | rfl | rfl | rfl | rfl | rfl <;> rfl

theorem isNameChar_of_goesOn {tok : Token} {c : Char} (h : goesOn tok c = true) :
    isNameChar c = true := by
  cases tok with
  | num _   => exact isNameChar_of_isWordChar h
  | ident _ => exact h
  | _       => cases h

theorem Stops.append {tok : Token} {rest more : List Char} (h : Stops tok rest)
    (hmore : rest = [] → Stops tok more) : Stops tok (rest ++ more) := by
  cases rest with
  | nil => exact hmore rfl
  | cons c rest => exact h

theorem Stops.of_append {tok : Token} {rest more : List Char} (h : Stops tok (rest ++ more)) :
    Stops tok rest := by
  cases rest with
  | nil => rintro _ ⟨⟩
  | cons c rest => exact h

/-- **A token is the same in front of whatever it does not go on with.** -/
theorem exists_lexeme {c : Char} {cs rest : List Char} {tok : Token}
    (h : scanToken c cs = .ok (tok, rest)) :
    ∃ more, cs = more ++ rest ∧ Stops tok rest ∧
      ∀ other, Stops tok other → scanToken c (more ++ other) = .ok (tok, other) := by
  cases scanned_of_scanToken h with
  | mark hmark =>
      exact ⟨[], rfl, fun d _ => goesOn_of_ofMark? hmark d,
        fun other _ => scanToken_mark hmark other⟩
  | text hquote hscan =>
      obtain ⟨literal, rfl, hliteral⟩ := exists_of_scanText hscan
      refine ⟨literal ++ ['"'], by simp, fun _ _ => rfl, fun other _ => ?_⟩
      rw [hquote, scanToken_quote, List.append_assoc, List.singleton_append, hliteral]
  | @body text _ hbrace hscan =>
      obtain ⟨rfl, hcloses⟩ := closes_of_scanBody hscan
      refine ⟨text ++ ['}'], by simp, fun _ _ => rfl, fun other _ => ?_⟩
      rw [hbrace, scanToken_brace, List.append_assoc, List.singleton_append,
        scanBody_of_closes hcloses]
  | number hdigit hnumber =>
      refine ⟨cs.takeWhile isWordChar, by simp, head?_dropWhile cs, fun other hother => ?_⟩
      obtain ⟨htake, hdrop⟩ := run_front isWordChar cs hother
      rw [scanToken_of_isDigit hdigit (htake ▸ hnumber), hdrop]
  | name hstart =>
      refine ⟨cs.takeWhile isNameChar, by simp, head?_dropWhile cs, fun other hother => ?_⟩
      obtain ⟨htake, hdrop⟩ := run_front isNameChar cs hother
      rw [scanToken_of_isNameStart hstart, htake, hdrop]

theorem isNameChar_of_run {c last : Char} {cs : List Char} {p : Char → Bool}
    (hp : ∀ c, p c → isNameChar c) (hc : isNameChar c) (hrest : cs.dropWhile p = [])
    (hmem : last ∈ c :: cs) : isNameChar last := by
  rcases List.mem_cons.mp hmem with rfl | hmem
  · exact hc
  · exact hp _ (List.dropWhile_eq_nil_iff.mp hrest _ hmem)

/-- A token goes on with letters and digits exactly if it ends with a character of names. -/
theorem goesOn_of_getLast? {c last : Char} {cs rest : List Char} {tok : Token}
    (h : scanToken c cs = .ok (tok, rest)) (hrest : rest = [])
    (hlast : last ∈ (c :: cs).getLast?) :
    (isNameChar last = false ∧ ∀ d, goesOn tok d = false) ∨
      (isNameChar last = true ∧ ∀ d, isWordChar d → goesOn tok d = true) := by
  have hmem : last ∈ c :: cs := List.mem_of_getLast? hlast
  cases scanned_of_scanToken h with
  | mark hmark =>
      rw [hrest, List.mem_singleton] at hmem
      refine .inl ⟨Bool.eq_false_iff.mpr fun hname => ?_, goesOn_of_ofMark? hmark⟩
      rw [← hmem, ofMark?_of_isNameChar hname] at hmark
      cases hmark
  | text _ hscan =>
      obtain ⟨literal, rfl, -⟩ := exists_of_scanText hscan
      rw [hrest, ← List.cons_append, List.getLast?_concat] at hlast
      cases hlast
      exact .inl ⟨by decide, fun _ => rfl⟩
  | body _ hscan =>
      obtain ⟨rfl, -⟩ := closes_of_scanBody hscan
      rw [hrest, ← List.cons_append, List.getLast?_concat] at hlast
      cases hlast
      exact .inl ⟨by decide, fun _ => rfl⟩
  | number hdigit _ =>
      exact .inr ⟨isNameChar_of_run (fun _ => isNameChar_of_isWordChar)
        (isNameChar_of_isDigit hdigit) hrest hmem, fun _ hd => hd⟩
  | name hstart =>
      exact .inr ⟨isNameChar_of_run (fun _ => id) (isNameChar_of_isNameStart hstart) hrest hmem,
        fun _ hd => isNameChar_of_isWordChar hd⟩

/-- **A token that is read is read with more behind it**, where it does not go on. -/
theorem scanToken_append {c : Char} {cs rest more : List Char} {tok : Token}
    (h : scanToken c cs = .ok (tok, rest)) (hmore : rest = [] → Stops tok more) :
    scanToken c (cs ++ more) = .ok (tok, rest ++ more) := by
  obtain ⟨lexeme, rfl, hrest, hlexeme⟩ := exists_lexeme h
  rw [List.append_assoc]
  exact hlexeme _ (hrest.append hmore)

/-! ### Places in a line -/

/-- Reading `cs`, the lexer comes to stand in front of `rest`, and has read the tokens by then. -/
inductive Reaches : List Char → List Token → List Char → Prop where
  | refl (cs : List Char) : Reaches cs [] cs
  | blank {c : Char} {cs rest : List Char} {ts : List Token} (hc : isBlank c = true)
      (t : Reaches cs ts rest) : Reaches (c :: cs) ts rest
  | token {c : Char} {cs cs' rest : List Char} {tok : Token} {ts : List Token}
      (hc : isBlank c = false) (h : scanToken c cs = .ok (tok, cs')) (t : Reaches cs' ts rest) :
      Reaches (c :: cs) (tok :: ts) rest

namespace Reaches
variable {cs rest : List Char} {ts : List Token}

theorem suffix (h : Reaches cs ts rest) : rest <:+ cs := by
  induction h with
  | refl cs => exact List.suffix_refl cs
  | blank _ _ ih => exact ih.trans (List.suffix_cons _ _)
  | token _ hscan _ ih => exact ih.trans ((suffix_scanToken hscan).trans (List.suffix_cons _ _))

theorem trans {rest' : List Char} {us : List Token} (h : Reaches cs ts rest)
    (h' : Reaches rest us rest') : Reaches cs (ts ++ us) rest' := by
  induction h with
  | refl _ => exact h'
  | blank hc _ ih => exact .blank hc (ih h')
  | token hc hscan _ ih => exact .token hc hscan (ih h')

/-- **What stands behind the place is read as if it were a line of its own**, be it without a fault
or with one. -/
theorem tokens_eq (h : Reaches cs ts rest) : tokens cs = (ts ++ ·) <$> tokens rest := by
  induction h with
  | refl cs => cases tokens cs <;> rfl
  | blank hc _ ih => rw [tokens_blank hc, ih]
  | @token _ _ _ rest _ _ hc hscan _ ih =>
      rw [tokens_of_scanToken hc hscan, ih]
      cases tokens rest <;> rfl

/-- **Of two places, one is reached from the other.** -/
theorem linear {rest' : List Char} {us : List Token} (h : Reaches cs ts rest)
    (h' : Reaches cs us rest') :
    (∃ more, us = ts ++ more ∧ Reaches rest more rest') ∨
      ∃ more, ts = us ++ more ∧ Reaches rest' more rest := by
  induction h generalizing us with
  | refl cs => exact .inl ⟨us, rfl, h'⟩
  | @blank c _ _ ts hc t ih =>
      cases h' with
      | refl => exact .inr ⟨ts, rfl, .blank hc t⟩
      | blank _ t' => exact ih t'
      | token hc' _ _ => rw [hc] at hc'; cases hc'
  | @token c _ _ _ tok ts hc hscan t ih =>
      cases h' with
      | refl => exact .inr ⟨tok :: ts, rfl, .token hc hscan t⟩
      | blank hc' _ => rw [hc] at hc'; cases hc'
      | token _ hscan' t' =>
          rw [hscan] at hscan'
          cases hscan'
          rcases ih t' with ⟨more, rfl, hmore⟩ | ⟨more, rfl, hmore⟩
          · exact .inl ⟨more, rfl, hmore⟩
          · exact .inr ⟨more, rfl, hmore⟩

end Reaches

/-- No name goes on over the seam of two texts. -/
def Apart (front back : List Char) : Prop :=
  ∀ c ∈ front.getLast?, ∀ d ∈ back.head?, isNameChar c = true → isNameChar d = false

theorem Apart.of_suffix {front rest back : List Char} (h : Apart front back)
    (hsuffix : rest <:+ front) : Apart rest back := by
  obtain ⟨used, rfl⟩ := hsuffix
  intro c hc
  refine h c ?_
  rw [List.getLast?_append, Option.mem_def.mp hc]
  rfl

theorem Apart.stops {c : Char} {cs rest back : List Char} {tok : Token} (h : Apart (c :: cs) back)
    (hscan : scanToken c cs = .ok (tok, rest)) (hrest : rest = []) : Stops tok back := by
  intro d hd
  obtain ⟨last, hlast⟩ : ∃ last, (c :: cs).getLast? = some last := ⟨_, List.getLast?_cons⟩
  rcases goesOn_of_getLast? hscan hrest hlast with ⟨-, hgoesOn⟩ | ⟨hname, -⟩
  · exact hgoesOn d
  · refine Bool.eq_false_iff.mpr fun hgoesOn => ?_
    have hstop := h last hlast d hd hname
    rw [isNameChar_of_goesOn hgoesOn] at hstop
    cases hstop

/-- **The lexer comes to stand behind a line that is read**, if no name goes on there. -/
theorem reaches_append {front back : List Char} {ts : List Token} (h : tokens front = .ok ts)
    (hapart : Apart front back) : Reaches (front ++ back) ts back := by
  induction front using tokens.induct generalizing ts with
  | case1 =>
      rw [tokens] at h
      cases h
      exact .refl back
  | case2 c cs hblank ih =>
      rw [tokens_blank hblank] at h
      exact .blank hblank (ih h (hapart.of_suffix (List.suffix_cons _ _)))
  | case3 c cs hblank tok rest hscan ih =>
      rw [Bool.not_eq_true] at hblank
      rw [tokens_of_scanToken hblank hscan] at h
      cases hrest : tokens rest with
      | error fault =>
          rw [hrest] at h
          cases h
      | ok us =>
          rw [hrest] at h
          cases h
          have hsuffix := (suffix_scanToken hscan).trans (List.suffix_cons c cs)
          exact .token hblank (scanToken_append hscan (hapart.stops hscan))
            (ih hrest (hapart.of_suffix hsuffix))
  | case4 c cs hblank fault hscan =>
      rw [tokens_of_scanToken_error (by simpa using hblank) hscan] at h
      cases h

theorem getLast?_append_cases {front back : List Char} {last : Char}
    (h : last ∈ (front ++ back).getLast?) :
    last ∈ back.getLast? ∨ back = [] ∧ last ∈ front.getLast? := by
  rwa [Option.mem_def, List.getLast?_append, Option.or_eq_some_iff, List.getLast?_eq_none_iff] at h

/-- In front of a letter or a digit, the lexer has read the text before, and a token has ended. -/
theorem Reaches.front {cs rest : List Char} {ts : List Token} (h : Reaches cs ts rest) {d : Char}
    (hhead : d ∈ rest.head?) (hd : isWordChar d) {front : List Char} (hcs : cs = front ++ rest) :
    tokens front = .ok ts ∧ ∀ c ∈ front.getLast?, isNameChar c = false := by
  induction h generalizing front with
  | refl cs =>
      obtain rfl : front = [] := List.self_eq_append_left.mp hcs
      exact ⟨by rw [tokens], by simp⟩
  | @blank c cs rest ts hc t ih =>
      rcases front with _ | ⟨c', front⟩
      · rw [List.nil_append] at hcs
        exact absurd t.suffix.length_le (by simp [← hcs])
      · rw [List.cons_append, List.cons.injEq] at hcs
        obtain ⟨rfl, rfl⟩ := hcs
        obtain ⟨hfront, hlast⟩ := ih hhead rfl
        refine ⟨by rw [tokens_blank hc, hfront], fun last hmem => ?_⟩
        rcases @getLast?_append_cases [c] front last hmem with hmem | ⟨-, hmem⟩
        · exact hlast last hmem
        · cases hmem
          exact Bool.eq_false_iff.mpr fun hname => by
            cases hc.symm.trans (isBlank_of_isNameChar hname)
  | @token c cs cs' rest tok ts hc hscan t ih =>
      obtain ⟨lexeme, rfl, hstops, hlexeme⟩ := exists_lexeme hscan
      obtain ⟨mid, rfl⟩ := t.suffix
      rcases front with _ | ⟨c', front⟩
      · exact absurd (congrArg List.length hcs) (by simp; omega)
      · rw [List.cons_append, List.cons.injEq, ← List.append_assoc,
          List.append_cancel_right_eq] at hcs
        obtain ⟨rfl, rfl⟩ := hcs
        obtain ⟨hfront, hlast⟩ := ih hhead rfl
        have hread := hlexeme mid hstops.of_append
        refine ⟨by rw [tokens_of_scanToken hc hread, hfront]; rfl, fun last hmem => ?_⟩
        rcases @getLast?_append_cases (c :: lexeme) mid last hmem with hmem' | ⟨rfl, -⟩
        · exact hlast last hmem'
        · -- the token would have gone on with the letter or digit
          rcases goesOn_of_getLast? hread rfl hmem with ⟨hname, -⟩ | ⟨-, hgoesOn⟩
          · exact hname
          · cases (hgoesOn d hd).symm.trans (hstops d hhead)

/-- **Where the lexer comes to stand in front of a letter or a digit**: the text before is read, and
does not end within a name or a number. -/
theorem reaches_iff {front rest : List Char} {d : Char} (hhead : d ∈ rest.head?)
    (hd : isWordChar d) {ts : List Token} :
    Reaches (front ++ rest) ts rest ↔
      tokens front = .ok ts ∧ ∀ c ∈ front.getLast?, isNameChar c = false := by
  refine ⟨fun h => h.front hhead hd rfl, fun ⟨h, hlast⟩ => reaches_append h ?_⟩
  intro c hc _ _ hname
  rw [hlast c hc] at hname
  cases hname

/-- **The lexer forgets at a semicolon**: behind a line that is read, a second one is read as it is
alone. -/
theorem tokens_append_semi {cs : List Char} {ts : List Token} (h : tokens cs = .ok ts)
    (ds : List Char) : tokens (cs ++ ';' :: ds) = (ts ++ .semi :: ·) <$> tokens ds := by
  have hapart : Apart cs (';' :: ds) := by
    rintro _ - _ ⟨⟩ -
    decide
  rw [(reaches_append h hapart).tokens_eq, tokens_of_scanToken (by decide) (scanToken_mark rfl ds)]
  cases tokens ds <;> rfl

end BoardConsole.Lexer
