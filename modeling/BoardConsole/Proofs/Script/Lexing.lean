import BoardConsole.Proofs.Script.Body

/-!
# Script — Tokens and their characters

What the characters of a line say of the tokens in it, and of a definition among them, and the other
way round.

* `wellFormed_of_tokens`: every name that was read is a name, and every body is trimmed and ends
  where its brace is.
* `printable_of_definition`: a definition that was read has a name, and a body that is trimmed and
  ends where its brace is; both stand in the line with eleven characters more.
* `tokens_definition`: such a macro, printed as a definition, is read as itself.
* `tokens_cut`: if its body is cut short, nothing of the line is read.
-/

namespace BoardConsole.Lexer
open Text

/-! ### One token at a time -/

theorem tokens_blank {c : Char} (h : isBlank c = true) (cs : List Char) :
    tokens (c :: cs) = tokens cs := by
  rw [tokens, if_pos h]

theorem tokens_of_scanToken {c : Char} {cs rest : List Char} {tok : Token}
    (hblank : isBlank c = false) (h : scanToken c cs = .ok (tok, rest)) :
    tokens (c :: cs) = (tok :: ·) <$> tokens rest := by
  rw [tokens, if_neg (by simp [hblank])]
  split
  · rename_i heq
    rw [h] at heq
    cases heq
    rfl
  · rename_i heq
    rw [h] at heq
    cases heq

theorem tokens_of_scanToken_error {c : Char} {cs : List Char} {fault : SyntaxFault}
    (hblank : isBlank c = false) (h : scanToken c cs = .error fault) :
    tokens (c :: cs) = .error fault := by
  rw [tokens, if_neg (by simp [hblank])]
  split
  · rename_i heq
    rw [h] at heq
    cases heq
  · rename_i heq
    rw [h] at heq
    cases heq
    rfl

/-- What a token is that begins with `c`, and what follows it. -/
inductive Scanned (c : Char) (cs : List Char) : Token → List Char → Prop where
  | mark {mark : Token} (h : Token.ofMark? c = some mark) : Scanned c cs mark cs
  | text {text rest : List Char} (hc : c = '"') (h : scanText cs = some (text, rest)) :
      Scanned c cs (.str (String.ofList text)) rest
  | body {text rest : List Char} (hc : c = '{') (h : scanBody 0 false cs = some (text, rest)) :
      Scanned c cs (.body (String.ofList (trim text))) rest
  | number {n : Int32} (hc : c.isDigit) (h : number? (c :: cs.takeWhile isWordChar) = some n) :
      Scanned c cs (.num n) (cs.dropWhile isWordChar)
  | name (hc : isNameStart c) :
      Scanned c cs (.ident (String.ofList (c :: cs.takeWhile isNameChar)))
        (cs.dropWhile isNameChar)

theorem scanned_of_scanToken {c : Char} {cs rest : List Char} {tok : Token}
    (h : scanToken c cs = .ok (tok, rest)) : Scanned c cs tok rest := by
  unfold scanToken at h
  split at h
  · rename_i hmark
    cases h
    exact .mark hmark
  split at h
  · rename_i hquote
    split at h
    · rename_i hscan
      cases h
      exact .text hquote hscan
    · cases h
  split at h
  · rename_i hbrace
    split at h
    · rename_i hscan
      cases h
      exact .body hbrace hscan
    · cases h
  split at h
  · rename_i hdigit
    dsimp only at h
    split at h
    · rename_i hnumber
      cases h
      exact .number hdigit hnumber
    · cases h
  split at h
  · rename_i hstart
    cases h
    exact .name hstart
  · cases h

/-- The first token stands behind blanks, and the others behind it. -/
theorem exists_of_tokens_cons {cs : List Char} {tok : Token} {ts : List Token}
    (h : tokens cs = .ok (tok :: ts)) :
    ∃ blanks c cs' rest, cs = blanks ++ c :: cs' ∧ (∀ b ∈ blanks, isBlank b) ∧
      scanToken c cs' = .ok (tok, rest) ∧ tokens rest = .ok ts := by
  induction cs with
  | nil => simp [tokens] at h
  | cons c cs ih =>
      by_cases hblank : isBlank c = true
      · rw [tokens_blank hblank] at h
        obtain ⟨blanks, c', cs', rest, rfl, hblanks, hscan, hrest⟩ := ih h
        exact ⟨c :: blanks, c', cs', rest, rfl, List.forall_mem_cons.mpr ⟨hblank, hblanks⟩, hscan,
          hrest⟩
      · rw [Bool.not_eq_true] at hblank
        cases hscan : scanToken c cs with
        | error fault =>
            rw [tokens_of_scanToken_error hblank hscan] at h
            cases h
        | ok found =>
            obtain ⟨tok', rest⟩ := found
            rw [tokens_of_scanToken hblank hscan] at h
            cases hrest : tokens rest with
            | error fault =>
                rw [hrest] at h
                cases h
            | ok us =>
                rw [hrest] at h
                cases h
                exact ⟨[], c, cs, rest, rfl, by simp, hscan, hrest⟩

theorem scanText_quote (cs : List Char) : scanText ('"' :: cs) = some ([], cs) := by
  unfold scanText
  rfl

theorem scanText_backslash (c : Char) (cs : List Char) :
    scanText ('\\' :: c :: cs) = (scanText cs).map fun (text, rest) => (unescape c :: text, rest) := by
  conv_lhs => unfold scanText
  rfl

theorem scanText_other {c : Char} (hquote : c ≠ '"') (hescape : c ≠ '\\') (cs : List Char) :
    scanText (c :: cs) = (scanText cs).map fun (text, rest) => (c :: text, rest) := by
  conv_lhs => unfold scanText
  rw [if_neg hquote, if_neg hescape]

/-- A literal ends with its quote, and is the same in front of anything else. -/
theorem exists_of_scanText {cs text rest : List Char} (h : scanText cs = some (text, rest)) :
    ∃ literal, cs = literal ++ '"' :: rest ∧
      ∀ other, scanText (literal ++ '"' :: other) = some (text, other) := by
  fun_induction scanText cs generalizing text rest
  case case1 => simp at h
  case case2 =>
      cases h
      exact ⟨[], rfl, scanText_quote⟩
  case case3 => simp at h
  case case4 d cs _ ih =>
      obtain ⟨⟨text', rest'⟩, hscan, heq⟩ := Option.map_eq_some_iff.mp h
      cases heq
      obtain ⟨literal, rfl, hliteral⟩ := ih hscan
      refine ⟨'\\' :: d :: literal, rfl, fun other => ?_⟩
      rw [List.cons_append, List.cons_append, scanText_backslash, hliteral]
      rfl
  case case5 c cs hquote hescape ih =>
      obtain ⟨⟨text', rest'⟩, hscan, heq⟩ := Option.map_eq_some_iff.mp h
      cases heq
      obtain ⟨literal, rfl, hliteral⟩ := ih hscan
      refine ⟨c :: literal, rfl, fun other => ?_⟩
      rw [List.cons_append, scanText_other hquote hescape, hliteral]
      rfl

theorem suffix_scanToken {c : Char} {cs rest : List Char} {tok : Token}
    (h : scanToken c cs = .ok (tok, rest)) : rest <:+ cs := by
  cases scanned_of_scanToken h with
  | mark _ => exact List.suffix_refl _
  | text _ hscan =>
      obtain ⟨literal, rfl, -⟩ := exists_of_scanText hscan
      exact (List.suffix_cons _ _).trans (List.suffix_append _ _)
  | body _ hscan =>
      rw [(closes_of_scanBody hscan).1]
      exact (List.suffix_cons _ _).trans (List.suffix_append _ _)
  | number _ _ => exact List.dropWhile_suffix _
  | name _ => exact List.dropWhile_suffix _

/-- The tokens at the end of a line are the tokens of its end. -/
theorem exists_of_tokens_append {cs : List Char} {ts us : List Token}
    (h : tokens cs = .ok (ts ++ us)) : ∃ cs', cs' <:+ cs ∧ tokens cs' = .ok us := by
  induction ts generalizing cs with
  | nil => exact ⟨cs, List.suffix_refl _, h⟩
  | cons tok ts ih =>
      obtain ⟨blanks, c, cs', rest, rfl, -, hscan, hrest⟩ := exists_of_tokens_cons h
      obtain ⟨cs'', hsuffix, hus⟩ := ih hrest
      refine ⟨cs'', hsuffix.trans ((suffix_scanToken hscan).trans ?_), hus⟩
      exact (List.suffix_cons _ _).trans (List.suffix_append _ _)

/-! ### Names and bodies -/

theorem isNameChar_of_isNameStart {c : Char} (h : isNameStart c = true) : isNameChar c = true := by
  simp only [isNameStart, isNameChar, Char.isAlphanum, Bool.or_eq_true] at h ⊢
  tauto

theorem isNameChar_of_isDigit {c : Char} (h : c.isDigit = true) : isNameChar c = true := by
  simp [isNameChar, Char.isAlphanum, h]

theorem isNameChar_of_isWordChar {c : Char} (h : isWordChar c = true) : isNameChar c = true := by
  simp only [isWordChar] at h
  simp [isNameChar, h]

theorem toNat_of_isNameChar {c : Char} (h : isNameChar c = true) :
    48 ≤ c.toNat ∧ c.toNat ≤ 122 := by
  simp only [isNameChar, Char.isAlphanum, Char.isAlpha, Char.isUpper, Char.isLower, Char.isDigit,
    Bool.or_eq_true, Bool.and_eq_true, decide_eq_true_eq, beq_iff_eq, UInt32.le_iff_toNat_le,
    ge_iff_le] at h
  rcases h with ((⟨hlow, hhigh⟩ | ⟨hlow, hhigh⟩) | ⟨hlow, hhigh⟩) | rfl
  · exact ⟨Nat.le_trans (by decide) hlow, Nat.le_trans hhigh (by decide)⟩
  · exact ⟨Nat.le_trans (by decide) hlow, hhigh⟩
  · exact ⟨hlow, Nat.le_trans hhigh (by decide)⟩
  · decide

theorem isBlank_of_isNameChar {c : Char} (h : isNameChar c = true) : isBlank c = false := by
  obtain ⟨hlow, hhigh⟩ := toNat_of_isNameChar h
  rw [Bool.eq_false_iff]
  intro hblank
  simp only [isBlank, Bool.or_eq_true, Bool.and_eq_true, decide_eq_true_eq, beq_iff_eq] at hblank
  omega

theorem ne_of_isNameChar {c : Char} (h : isNameChar c = true) : c ≠ '"' ∧ c ≠ '{' ∧ c ≠ '}' := by
  refine ⟨?_, ?_, ?_⟩ <;> rintro rfl <;> exact absurd h (by decide)

theorem ofMark?_of_isNameChar {c : Char} (h : isNameChar c = true) : Token.ofMark? c = none := by
  rw [Option.eq_none_iff_forall_ne_some]
  intro mark hmark
  unfold Token.ofMark? at hmark
  split_ifs at hmark <;> subst_vars <;> exact absurd h (by decide)

theorem not_isDigit_of_isNameStart {c : Char} (h : isNameStart c = true) : c.isDigit = false := by
  rw [Bool.eq_false_iff]
  intro hdigit
  simp only [Char.isDigit, Bool.and_eq_true, decide_eq_true_eq, UInt32.le_iff_toNat_le,
    ge_iff_le] at hdigit
  simp only [isNameStart, Char.isAlpha, Char.isUpper, Char.isLower, Bool.or_eq_true,
    Bool.and_eq_true, decide_eq_true_eq, beq_iff_eq, UInt32.le_iff_toNat_le, ge_iff_le] at h
  have hlow : 57 < c.val.toNat := by
    rcases h with (⟨hlow, -⟩ | ⟨hlow, -⟩) | rfl
    · exact Nat.lt_of_lt_of_le (by decide) hlow
    · exact Nat.lt_of_lt_of_le (by decide) hlow
    · decide
  exact absurd hdigit.2 (Nat.not_le.mpr hlow)

theorem scanToken_of_isNameStart {c : Char} (h : isNameStart c = true) (cs : List Char) :
    scanToken c cs
      = .ok (.ident (String.ofList (c :: cs.takeWhile isNameChar)), cs.dropWhile isNameChar) := by
  have hname := isNameChar_of_isNameStart h
  obtain ⟨hquote, hbrace, -⟩ := ne_of_isNameChar hname
  unfold scanToken
  simp only [ofMark?_of_isNameChar hname, if_neg hquote, if_neg hbrace,
    not_isDigit_of_isNameStart h, Bool.false_eq_true, ↓reduceIte, if_pos h]

theorem scanToken_of_isDigit {c : Char} (h : c.isDigit = true) {cs : List Char} {n : Int32}
    (hrun : number? (c :: cs.takeWhile isWordChar) = some n) :
    scanToken c cs = .ok (.num n, cs.dropWhile isWordChar) := by
  have hname := isNameChar_of_isDigit h
  obtain ⟨hquote, hbrace, -⟩ := ne_of_isNameChar hname
  unfold scanToken
  simp only [ofMark?_of_isNameChar hname, if_neg hquote, if_neg hbrace, if_pos h, hrun]

theorem scanToken_of_isDigit_error {c : Char} (h : c.isDigit = true) {cs : List Char}
    (hrun : number? (c :: cs.takeWhile isWordChar) = none) :
    scanToken c cs = .error (.badNumber (String.ofList (c :: cs.takeWhile isWordChar))) := by
  have hname := isNameChar_of_isDigit h
  obtain ⟨hquote, hbrace, -⟩ := ne_of_isNameChar hname
  unfold scanToken
  simp only [ofMark?_of_isNameChar hname, if_neg hquote, if_neg hbrace, if_pos h, hrun]

theorem scanToken_mark {c : Char} {mark : Token} (h : Token.ofMark? c = some mark)
    (cs : List Char) : scanToken c cs = .ok (mark, cs) := by
  unfold scanToken
  rw [h]

theorem scanToken_quote (cs : List Char) :
    scanToken '"' cs = match scanText cs with
      | some (text, rest) => .ok (.str (String.ofList text), rest)
      | none              => .error .unterminatedString := rfl

theorem scanToken_brace (cs : List Char) :
    scanToken '{' cs = match scanBody 0 false cs with
      | some (text, rest) => .ok (.body (String.ofList (trim text)), rest)
      | none              => .error .missingBrace := rfl

theorem ofMark?_eq_some {c : Char} {tok : Token} (h : Token.ofMark? c = some tok) :
    tok ∈ [.lparen, .rparen, .comma, .semi, .bang, .minus, .star] := by
  unfold Token.ofMark? at h
  split_ifs at h <;> cases h <;> decide

theorem scanToken_ident {c : Char} {cs rest : List Char} {name : String}
    (h : scanToken c cs = .ok (.ident name, rest)) :
    isNameStart c ∧ name.toList = c :: cs.takeWhile isNameChar ∧
      rest = cs.dropWhile isNameChar := by
  cases scanned_of_scanToken h with
  | mark hmark => exact absurd (ofMark?_eq_some hmark) (by simp)
  | name hstart => exact ⟨hstart, String.toList_ofList, rfl⟩

theorem scanToken_body {c : Char} {cs rest : List Char} {body : String}
    (h : scanToken c cs = .ok (.body body, rest)) :
    c = '{' ∧ ∃ text, cs = text ++ '}' :: rest ∧ Closes 0 false text ∧ body.toList = trim text := by
  cases scanned_of_scanToken h with
  | mark hmark => exact absurd (ofMark?_eq_some hmark) (by simp)
  | body hbrace hscan =>
      obtain ⟨hcs, hcloses⟩ := closes_of_scanBody hscan
      exact ⟨hbrace, _, hcs, hcloses, String.toList_ofList⟩

/-- The characters of a name. -/
def IsName (cs : List Char) : Prop :=
  ∃ first more, cs = first :: more ∧ isNameStart first ∧ ∀ c ∈ more, isNameChar c

/-- A token that a line can hold: a name is a name, and a body is trimmed and ends where the brace
behind it is. -/
def WellFormed : Token → Prop
  | .ident name => IsName name.toList
  | .body text  => trim text.toList = text.toList ∧ Closes 0 false text.toList
  | _           => True

theorem wellFormed_of_scanToken {c : Char} {cs rest : List Char} {tok : Token}
    (h : scanToken c cs = .ok (tok, rest)) : WellFormed tok := by
  cases tok with
  | ident name =>
      obtain ⟨hstart, hname, -⟩ := scanToken_ident h
      exact ⟨c, _, hname, hstart, fun c hc => List.mem_takeWhile_imp hc⟩
  | body text =>
      obtain ⟨-, inner, -, hcloses, htext⟩ := scanToken_body h
      show trim text.toList = text.toList ∧ Closes 0 false text.toList
      rw [htext]
      exact ⟨trim_trim inner, closes_trim hcloses⟩
  | _ => trivial

/-- **What is read is well-formed.** -/
theorem wellFormed_of_tokens {cs : List Char} {ts : List Token} (h : tokens cs = .ok ts) :
    ∀ tok ∈ ts, WellFormed tok := by
  induction ts generalizing cs with
  | nil => simp
  | cons tok ts ih =>
      obtain ⟨_, _, _, _, -, -, hscan, hrest⟩ := exists_of_tokens_cons h
      exact List.forall_mem_cons.mpr ⟨wellFormed_of_scanToken hscan, ih hrest⟩

/-! ### Definitions -/

/-- A macro that a definition can be written for: its name is a name, its body is trimmed and ends
where the brace behind it is. -/
structure Printable (name body : String) : Prop where
  isName  : IsName name.toList
  trimmed : trim body.toList = body.toList
  closes  : Closes 0 false body.toList

/-- The tokens of a definition. -/
def definition (name body : String) : List Token := [.ident "function", .ident name, .body body]

/-- **What a definition in a line looks like.**  Its macro can be printed, its body stands in the
line, and the line is longer than both by the word, a blank, and the braces. -/
theorem printable_of_definition {cs : List Char} {ts : List Token} {name body : String}
    (h : tokens cs = .ok ts) (hdef : definition name body <:+: ts) :
    Printable name body ∧ body.toList <:+: cs ∧
      name.toList.length + body.toList.length + 11 ≤ cs.length := by
  obtain ⟨front, back, rfl⟩ := hdef
  rw [List.append_assoc] at h
  obtain ⟨cs₀, hsuffix, h⟩ := exists_of_tokens_append h
  obtain ⟨blanks₁, c₁, cs₁, rest₁, hcs₀, -, hscan₁, h⟩ := exists_of_tokens_cons h
  obtain ⟨blanks₂, c₂, cs₂, rest₂, hrest₁, hblanks₂, hscan₂, h⟩ := exists_of_tokens_cons h
  obtain ⟨blanks₃, c₃, cs₃, rest₃, hrest₂, -, hscan₃, h⟩ := exists_of_tokens_cons h
  obtain ⟨-, hword, hrest₁'⟩ := scanToken_ident hscan₁
  obtain ⟨hstart₂, hname, hrest₂'⟩ := scanToken_ident hscan₂
  obtain ⟨-, text, hcs₃, -, hbody⟩ := scanToken_body hscan₃
  obtain ⟨textFront, textBack, htext, -, -⟩ := exists_trim text
  -- the first word would go on with the second if no blank stood between them
  have hne : blanks₂ ≠ [] := by
    rintro rfl
    have hstop := List.head?_dropWhile_not isNameChar cs₁
    rw [← hrest₁', hrest₁] at hstop
    simp only [List.nil_append, List.head?_cons] at hstop
    rw [isNameChar_of_isNameStart hstart₂] at hstop
    cases hstop
  have hprintable : Printable name body :=
    ⟨wellFormed_of_scanToken hscan₂, (wellFormed_of_scanToken hscan₃).1,
      (wellFormed_of_scanToken hscan₃).2⟩
  have hshape : cs₀ = blanks₁ ++ ("function".toList ++ (blanks₂ ++ (name.toList ++
      (blanks₃ ++ c₃ :: (textFront ++ body.toList ++ textBack ++ '}' :: rest₃))))) := by
    have hfirst : c₁ :: cs₁ = "function".toList ++ rest₁ := by
      rw [hword, hrest₁', List.cons_append, List.takeWhile_append_dropWhile]
    have hsecond : c₂ :: cs₂ = name.toList ++ rest₂ := by
      rw [hname, hrest₂', List.cons_append, List.takeWhile_append_dropWhile]
    rw [hcs₀, hfirst, hrest₁, hsecond, hrest₂, hcs₃, hbody, ← htext]
  refine ⟨hprintable, List.IsInfix.trans ⟨blanks₁ ++ ("function".toList ++ (blanks₂ ++
    (name.toList ++ (blanks₃ ++ c₃ :: textFront)))), textBack ++ '}' :: rest₃, ?_⟩
    hsuffix.isInfix, ?_⟩
  · rw [hshape]
    simp only [List.append_assoc, List.cons_append]
  · have hlen := hsuffix.length_le
    have hblank : 0 < blanks₂.length := List.length_pos_iff.mpr hne
    have hfunction : "function".toList.length = 8 := rfl
    rw [hshape] at hlen
    simp only [List.length_append, List.length_cons, hfunction] at hlen
    omega

/-! ### Tokens that are written -/

theorem head?_dropWhile {p : Char → Bool} (cs : List Char) :
    ∀ c ∈ (cs.dropWhile p).head?, p c = false := by
  intro c hc
  have hstop := List.head?_dropWhile_not p cs
  rw [Option.mem_def.mp hc] at hstop
  simpa using hstop

/-- A run of characters of one kind ends where one of another kind follows, or nothing. -/
theorem takeWhile_run {p : Char → Bool} {run rest : List Char} (hrun : ∀ c ∈ run, p c)
    (hstop : ∀ c ∈ rest.head?, p c = false) :
    (run ++ rest).takeWhile p = run ∧ (run ++ rest).dropWhile p = rest := by
  rw [List.takeWhile_append_of_pos hrun, List.dropWhile_append_of_pos hrun]
  cases rest with
  | nil => simp
  | cons c cs => simp [hstop c rfl]

/-- The run that a text begins with ends alike in front of anything that stops it. -/
theorem run_front (p : Char → Bool) (cs : List Char) {other : List Char}
    (hother : ∀ c ∈ other.head?, p c = false) :
    (cs.takeWhile p ++ other).takeWhile p = cs.takeWhile p ∧
      (cs.takeWhile p ++ other).dropWhile p = other :=
  takeWhile_run (fun _ hc => List.mem_takeWhile_imp hc) hother

/-- What stops a run is where it ends with more behind it, too. -/
theorem run_append {p : Char → Bool} {more : List Char} (hmore : ∀ c ∈ more.head?, p c = false)
    (cs : List Char) :
    (cs ++ more).takeWhile p = cs.takeWhile p ∧
      (cs ++ more).dropWhile p = cs.dropWhile p ++ more := by
  have hstop : ∀ c ∈ (cs.dropWhile p ++ more).head?, p c = false := by
    intro c hc
    cases hrest : cs.dropWhile p with
    | nil =>
        rw [hrest, List.nil_append] at hc
        exact hmore c hc
    | cons d rest =>
        rw [hrest] at hc
        exact head?_dropWhile cs c (hrest ▸ hc)
  have hrun := run_front p cs hstop
  rwa [← List.append_assoc, List.takeWhile_append_dropWhile] at hrun

/-- A name is read to where it ends. -/
theorem tokens_name {name : String} (hname : IsName name.toList) {rest : List Char}
    (hstop : ∀ c ∈ rest.head?, isNameChar c = false) :
    tokens (name.toList ++ rest) = (Token.ident name :: ·) <$> tokens rest := by
  obtain ⟨first, more, heq, hfirst, hmore⟩ := hname
  obtain ⟨htake, hdrop⟩ := takeWhile_run hmore hstop
  have hscan := scanToken_of_isNameStart hfirst (more ++ rest)
  rw [htake, hdrop, ← heq, String.ofList_toList] at hscan
  have hblank := isBlank_of_isNameChar (isNameChar_of_isNameStart hfirst)
  rw [heq, List.cons_append, tokens_of_scanToken hblank hscan]

/-- A name on its own. -/
theorem tokenize_name {name : String} (h : IsName name.toList) :
    tokenize name = .ok [.ident name] := by
  have hread := @tokens_name name h [] (by simp)
  rw [List.append_nil, tokens] at hread
  exact hread

/-- A body is read to where it ends. -/
theorem tokens_body {body : String} (htrim : trim body.toList = body.toList)
    (hcloses : Closes 0 false body.toList) (rest : List Char) :
    tokens ('{' :: (body.toList ++ '}' :: rest)) = (Token.body body :: ·) <$> tokens rest := by
  have hscan : scanToken '{' (body.toList ++ '}' :: rest) = .ok (.body body, rest) := by
    rw [scanToken_brace, scanBody_of_closes hcloses]
    simp only [htrim, String.ofList_toList]
  exact tokens_of_scanToken (by decide) hscan

/-! ### Definitions that are printed -/

theorem isName_function : IsName "function".toList :=
  ⟨'f', "unction".toList, rfl, by decide, List.all_eq_true.mp (by decide)⟩

/-- The front of a definition is read up to its body. -/
theorem tokens_front {name : String} (h : IsName name.toList) (cs : List Char) :
    tokens ("function ".toList ++ name.toList ++ " \x7b".toList ++ cs)
      = ([.ident "function", .ident name] ++ ·) <$> tokens ('{' :: cs) := by
  have hshape : "function ".toList ++ name.toList ++ " \x7b".toList ++ cs
      = "function".toList ++ ' ' :: (name.toList ++ ' ' :: '{' :: cs) := by
    simp
  rw [hshape, tokens_name isName_function (by simp; decide), tokens_blank (by decide),
    tokens_name h (by simp; decide), tokens_blank (by decide)]
  cases tokens ('{' :: cs) <;> rfl

/-- **A definition that is printed is read as itself**, whatever follows its body. -/
theorem tokens_definition {name body : String} (h : Printable name body) (rest : List Char) :
    tokens ("function ".toList ++ name.toList ++ " \x7b".toList ++ (body.toList ++ '}' :: rest))
      = (definition name body ++ ·) <$> tokens rest := by
  rw [tokens_front h.isName, tokens_body h.trimmed h.closes]
  cases tokens rest <;> rfl

/-- **A definition whose body is cut short is not read at all.** -/
theorem tokens_cut {name body : String} (h : Printable name body) {front back other : List Char}
    (hbody : body.toList = front ++ back) (hother : '}' ∉ other) :
    tokens ("function ".toList ++ name.toList ++ " \x7b".toList ++ (front ++ other))
      = .error .missingBrace := by
  have hscan : scanToken '{' (front ++ other) = .error .missingBrace := by
    rw [scanToken_brace, scanBody_cut (hbody ▸ h.closes) hother]
  rw [tokens_front h.isName, tokens_of_scanToken_error (by decide) hscan]
  rfl

end BoardConsole.Lexer
