import BoardConsole.Proofs.Script.Lexing
import BoardConsole.Proofs.Text.Number

/-!
# Script — Tokens written down

Tokens are written by their lexemes, with a blank between two of them: a number in decimal digits
where it is not negative, otherwise `0x` and its 32 bits in base sixteen; a text between quotes,
with a backslash before each quote and each backslash of it; a body between its braces.

* `number?_numeral`, `scanText_escape`: numbers and texts are read as what was written.
* `tokens_lexeme`: so is every token, whatever stands behind the blank that follows it.
* `tokenize_render`: so is every list of well-formed tokens, and no other list is read.
-/

namespace BoardConsole.Lexer
open Text

/-! ### Lexemes -/

/-- A number as it is written. -/
def numeral (n : Int32) : List Char :=
  if 0 ≤ n.toInt then Nat.toDigits 10 n.toInt.toNat
  else '0' :: 'x' :: Nat.toDigits 16 n.toUInt32.toNat

/-- The characters of a text as they are written between quotes. -/
def escape (text : List Char) : List Char :=
  text.flatMap fun c => if c = '"' ∨ c = '\\' then ['\\', c] else [c]

/-- A token as it is written. -/
def lexeme : Token → List Char
  | .num n     => numeral n
  | .str text  => '"' :: escape text.toList ++ ['"']
  | .ident n   => n.toList
  | .body text => '{' :: text.toList ++ ['}']
  | .lparen    => ['(']
  | .rparen    => [')']
  | .comma     => [',']
  | .semi      => [';']
  | .bang      => ['!']
  | .minus     => ['-']
  | .star      => ['*']

/-- Tokens as they are written, with a blank between two of them. -/
def render (ts : List Token) : String :=
  String.ofList ([' '].intercalate (ts.map lexeme))

/-! ### Texts -/

/-- **A text is read as what was written.** -/
theorem scanText_escape (text rest : List Char) :
    scanText (escape text ++ '"' :: rest) = some (text, rest) := by
  induction text with
  | nil => exact scanText_quote rest
  | cons c cs ih =>
      rw [escape, List.flatMap_cons, ← escape, List.append_assoc]
      split
      · rename_i hmark
        rw [List.cons_append, List.singleton_append, scanText_backslash, ih]
        rcases hmark with rfl | rfl <;> rfl
      · rename_i hmark
        rw [not_or] at hmark
        rw [List.singleton_append, scanText_other hmark.1 hmark.2, ih]
        rfl

/-! ### Numbers -/

theorem isWordChar_digitChar {d : Nat} (h : d < 16) : isWordChar d.digitChar := by
  interval_cases d <;> decide

theorem hexDigits?_of_digits {run : List Char} (h : ∀ c ∈ run, c.isDigit) :
    hexDigits? run = none := by
  unfold hexDigits?
  split
  · exact absurd (h 'x' (by simp)) (by decide)
  · exact absurd (h 'X' (by simp)) (by decide)
  · rfl

theorem ofNat_bits (n : Int32) : Int32.ofNat n.toUInt32.toNat = n := by
  rw [← Int32.toBitVec_inj]
  simp

theorem number?_decimal {n : Nat} (h : n < 2 ^ 31) :
    number? (Nat.toDigits 10 n) = some (Int32.ofNat n) := by
  have hdigits : ∀ c ∈ Nat.toDigits 10 n, c.isDigit := fun c hc =>
    Nat.isDigit_of_mem_toDigits (by decide) (by decide) hc
  rw [number?, hexDigits?_of_digits hdigits, nat?_toDigits (by decide) (by decide)]
  exact if_pos h

theorem number?_hex {n : Nat} (h : n < 2 ^ 32) :
    number? ('0' :: 'x' :: Nat.toDigits 16 n) = some (Int32.ofNat n) := by
  simp only [number?, hexDigits?, nat?_toDigits (by decide : 1 < 16) (by decide) n]
  exact if_pos h

/-- **A number is read as what was written.** -/
theorem number?_numeral (n : Int32) : number? (numeral n) = some n := by
  unfold numeral
  split
  · rename_i hpos
    have hlt := n.toInt_lt
    rw [number?_decimal (by omega), ← Int32.ofInt_eq_ofNat, Int.toNat_of_nonneg hpos,
      Int32.ofInt_toInt]
  · rw [number?_hex n.toUInt32.toNat_lt, ofNat_bits]

/-- A number begins with a digit, and nothing in it ends its run. -/
theorem exists_numeral (n : Int32) :
    ∃ c cs, numeral n = c :: cs ∧ c.isDigit ∧ ∀ d ∈ cs, isWordChar d := by
  unfold numeral
  split
  · obtain ⟨c, cs, heq⟩ := List.exists_cons_of_ne_nil
      (Nat.toDigits_ne_nil (n := n.toInt.toNat) (b := 10))
    have hdigit : ∀ d ∈ c :: cs, d.isDigit := fun d hd =>
      Nat.isDigit_of_mem_toDigits (by decide) (by decide) (heq ▸ hd)
    rw [List.forall_mem_cons] at hdigit
    refine ⟨c, cs, heq, hdigit.1, fun d hd => ?_⟩
    simp [isWordChar, Char.isAlphanum, hdigit.2 d hd]
  · refine ⟨'0', _, rfl, by decide, List.forall_mem_cons.mpr ⟨by decide, fun d hd => ?_⟩⟩
    obtain ⟨k, hk, rfl⟩ := exists_digitChar (by decide) hd
    exact isWordChar_digitChar hk

/-- A number is read to where its run ends. -/
theorem tokens_numeral (n : Int32) {rest : List Char}
    (hstop : ∀ c ∈ rest.head?, isWordChar c = false) :
    tokens (numeral n ++ rest) = (Token.num n :: ·) <$> tokens rest := by
  obtain ⟨c, cs, heq, hdigit, hcs⟩ := exists_numeral n
  obtain ⟨htake, hdrop⟩ := takeWhile_run hcs hstop
  have hrun : number? (c :: (cs ++ rest).takeWhile isWordChar) = some n := by
    rw [htake, ← heq, number?_numeral]
  have hscan := scanToken_of_isDigit hdigit hrun
  rw [hdrop] at hscan
  have hblank := isBlank_of_isNameChar (isNameChar_of_isDigit hdigit)
  rw [heq, List.cons_append, tokens_of_scanToken hblank hscan]

/-! ### Tokens -/

theorem tokens_mark {c : Char} {mark : Token} (hblank : isBlank c = false)
    (h : Token.ofMark? c = some mark) (rest : List Char) :
    tokens (c :: rest) = (mark :: ·) <$> tokens rest :=
  tokens_of_scanToken hblank (scanToken_mark h rest)

theorem tokens_text (text : String) (rest : List Char) :
    tokens ('"' :: (escape text.toList ++ '"' :: rest)) = (Token.str text :: ·) <$> tokens rest := by
  have hscan : scanToken '"' (escape text.toList ++ '"' :: rest) = .ok (.str text, rest) := by
    rw [scanToken_quote, scanText_escape]
    simp only [String.ofList_toList]
  exact tokens_of_scanToken (by decide) hscan

/-- **A token is read as what was written**, if nothing follows it or a blank does. -/
theorem tokens_lexeme {tok : Token} (h : WellFormed tok) {rest : List Char}
    (hrest : ∀ c ∈ rest.head?, c = ' ') :
    tokens (lexeme tok ++ rest) = (tok :: ·) <$> tokens rest := by
  cases tok with
  | num n => exact tokens_numeral n fun c hc => by rw [hrest c hc]; decide
  | str text => simpa [lexeme] using tokens_text text rest
  | ident name => exact tokens_name h fun c hc => by rw [hrest c hc]; decide
  | body text => simpa [lexeme] using tokens_body h.1 h.2 rest
  | _ => exact tokens_mark (by decide) rfl rest

/-! ### Lines -/

/-- **A line is read as what was written.** -/
theorem tokens_lexemes {ts : List Token} (h : ∀ tok ∈ ts, WellFormed tok) :
    tokens ([' '].intercalate (ts.map lexeme)) = .ok ts := by
  induction ts with
  | nil => rw [List.map_nil, List.intercalate_nil, tokens]
  | cons tok ts ih =>
      rw [List.forall_mem_cons] at h
      cases ts with
      | nil =>
          have hread := @tokens_lexeme tok h.1 [] (by simp)
          rw [List.append_nil, tokens] at hread
          rw [List.map_singleton, List.intercalate_singleton, hread]
          rfl
      | cons next ts =>
          rw [List.map_cons, List.map_cons, List.intercalate_cons_cons, List.append_assoc,
            tokens_lexeme h.1 (by simp), List.singleton_append, tokens_blank (by decide),
            ← List.map_cons, ih h.2]
          rfl

/-- **Reading undoes writing.**  Whatever line is read, its tokens are well-formed; and whatever
tokens are well-formed, the line that they are written as is read as just these tokens. -/
theorem tokenize_render :
    (∀ (line : String) (ts : List Token), tokenize line = .ok ts → ∀ tok ∈ ts, WellFormed tok) ∧
      ∀ ts : List Token, (∀ tok ∈ ts, WellFormed tok) → tokenize (render ts) = .ok ts := by
  refine ⟨fun line ts h => wellFormed_of_tokens h, fun ts h => ?_⟩
  rw [tokenize, render, String.toList_ofList]
  exact tokens_lexemes h

/-- A token of every kind, with a negative number, a text with marks in it, and a body with a brace
in a text. -/
def allKinds : List Token :=
  [.ident "f", .lparen, .num 7, .comma, .num (-1), .rparen, .semi, .bang, .minus, .star,
    .str "say \"\\\"", .body "print \"\x7d\""]

theorem tokenize_render_allKinds :
    tokenize "f(7,0XFFFFFFFF);!-*\"say \\\"\\\\\\\"\"\x7b print \"\x7d\" \x7d" = .ok allKinds ∧
      (∀ tok ∈ allKinds, WellFormed tok) ∧ tokenize (render allKinds) = .ok allKinds := by
  have hread : tokenize "f(7,0XFFFFFFFF);!-*\"say \\\"\\\\\\\"\"\x7b print \"\x7d\" \x7d"
      = .ok allKinds := by cbv
  have hkinds : ∀ tok ∈ allKinds, WellFormed tok := tokenize_render.1 _ _ hread
  exact ⟨hread, hkinds, tokenize_render.2 _ hkinds⟩

end BoardConsole.Lexer
