import BoardConsole.Error
import BoardConsole.Text.Blank
import BoardConsole.Text.Number

/-!
# Script — From characters to tokens

`tokenize` splits a line into tokens, or names the first fault in it. Blanks separate tokens and
are otherwise skipped; a number is the longest run of ASCII letters and digits that begins with a
digit, and a name the longest run of ASCII letters, digits and underscores that begins with none.
A body runs to the brace that matches its first one, where braces inside a text literal do not
count. Each step leaves a shorter rest, which is what ends the loop.
-/

namespace BoardConsole.Lexer
open Text

/-- A character of a number's run. -/
def isWordChar (c : Char) : Bool := c.isAlphanum

/-- A character of a name. -/
def isNameChar (c : Char) : Bool := c.isAlphanum || c == '_'

/-- A character that can begin a name. -/
def isNameStart (c : Char) : Bool := c.isAlpha || c == '_'

/-- The character that a backslash and `c` stand for in a text literal. -/
def unescape (c : Char) : Char :=
  if c = 'n' then '\n' else if c = 't' then '\t' else c

/-- The text up to the closing quote and what follows it; nothing where no quote closes it. -/
def scanText : List Char → Option (List Char × List Char)
  | []      => none
  | c :: cs =>
    if c = '"' then some ([], cs)
    else if c = '\\' then
      match cs with
      | []       => none
      | d :: cs' => (scanText cs').map fun (text, rest) => (unescape d :: text, rest)
    else (scanText cs).map fun (text, rest) => (c :: text, rest)

/-- The text up to the brace that closes a body and what follows it; nothing where none does.
`depth` counts the braces opened inside the body, `inText` tells whether the scan is inside a text
literal, where a backslash also takes the character after it and braces do not count. -/
def scanBody (depth : Nat) (inText : Bool) : List Char → Option (List Char × List Char)
  | []      => none
  | c :: cs =>
    if c = '"' then (scanBody depth (!inText) cs).map fun (text, rest) => (c :: text, rest)
    else if inText then
      if c = '\\' then
        match cs with
        | []       => none
        | d :: cs' => (scanBody depth true cs').map fun (text, rest) => (c :: d :: text, rest)
      else (scanBody depth true cs).map fun (text, rest) => (c :: text, rest)
    else if c = '{' then (scanBody (depth + 1) false cs).map fun (text, rest) => (c :: text, rest)
    else if c = '}' then
      match depth with
      | 0         => some ([], cs)
      | depth + 1 => (scanBody depth false cs).map fun (text, rest) => (c :: text, rest)
    else (scanBody depth false cs).map fun (text, rest) => (c :: text, rest)

/-- The digits after a mark of base sixteen. -/
def hexDigits? : List Char → Option (List Char)
  | '0' :: 'x' :: cs => some cs
  | '0' :: 'X' :: cs => some cs
  | _                => none

/-- The value of a number's run: after `0x` or `0X` any pattern of 32 bits in base sixteen,
otherwise a decimal number of at most 31 bits. -/
def number? (run : List Char) : Option Int32 :=
  match hexDigits? run with
  | some digits =>
    match nat? 16 digits with
    | some n => if n < Nat.pow 2 32 then some (Int32.ofNat n) else none
    | none   => none
  | none =>
    match nat? 10 run with
    | some n => if n < Nat.pow 2 31 then some (Int32.ofNat n) else none
    | none   => none

/-- The token that begins with the character `c`, which is no blank, and what follows it. -/
def scanToken (c : Char) (cs : List Char) : Except SyntaxFault (Token × List Char) :=
  match Token.ofMark? c with
  | some mark => .ok (mark, cs)
  | none =>
    if c = '"' then
      match scanText cs with
      | some (text, rest) => .ok (.str (String.ofList text), rest)
      | none              => .error .unterminatedString
    else if c = '{' then
      match scanBody 0 false cs with
      | some (text, rest) => .ok (.body (String.ofList (trim text)), rest)
      | none              => .error .missingBrace
    else if c.isDigit then
      let run := c :: cs.takeWhile isWordChar
      match number? run with
      | some n => .ok (.num n, cs.dropWhile isWordChar)
      | none   => .error (.badNumber (String.ofList run))
    else if isNameStart c then
      .ok (.ident (String.ofList (c :: cs.takeWhile isNameChar)), cs.dropWhile isNameChar)
    else .error (.strayChar c)

theorem length_dropWhile_le (p : Char → Bool) (cs : List Char) :
    (cs.dropWhile p).length ≤ cs.length :=
  (List.dropWhile_sublist p).length_le

theorem length_scanText {cs text rest : List Char} (h : scanText cs = some (text, rest)) :
    rest.length < cs.length := by
  fun_induction scanText cs generalizing text rest with
  | case1 => simp at h
  | case2 cs => simp only [Option.some.injEq, Prod.mk.injEq] at h; simp [← h.2]
  | case3 => simp at h
  | case4 d cs' _ ih =>
    obtain ⟨⟨t, r⟩, ht, hr⟩ := Option.map_eq_some_iff.1 h
    simp only [Prod.mk.injEq] at hr
    have := ih ht
    simp only [← hr.2, List.length_cons]
    omega
  | case5 c cs _ _ ih =>
    obtain ⟨⟨t, r⟩, ht, hr⟩ := Option.map_eq_some_iff.1 h
    simp only [Prod.mk.injEq] at hr
    have := ih ht
    simp only [← hr.2, List.length_cons]
    omega

theorem length_scanBody {depth : Nat} {inText : Bool} {cs text rest : List Char}
    (h : scanBody depth inText cs = some (text, rest)) : rest.length < cs.length := by
  fun_induction scanBody depth inText cs generalizing text rest
  case case1 => simp at h
  case case3 => simp at h
  case case7 => simp only [Option.some.injEq, Prod.mk.injEq] at h; simp [← h.2]
  all_goals
    rename_i ih
    obtain ⟨⟨t, r⟩, ht, hr⟩ := Option.map_eq_some_iff.1 h
    simp only [Prod.mk.injEq] at hr
    have := ih ht
    simp only [← hr.2, List.length_cons]
    omega

theorem length_scanToken {c : Char} {cs rest : List Char} {tok : Token}
    (h : scanToken c cs = .ok (tok, rest)) : rest.length ≤ cs.length := by
  unfold scanToken at h
  split at h
  · simp only [Except.ok.injEq, Prod.mk.injEq] at h; simp [← h.2]
  · split at h
    · split at h
      · rename_i hs
        simp only [Except.ok.injEq, Prod.mk.injEq] at h
        exact h.2 ▸ Nat.le_of_lt (length_scanText hs)
      · simp at h
    · split at h
      · split at h
        · rename_i hs
          simp only [Except.ok.injEq, Prod.mk.injEq] at h
          exact h.2 ▸ Nat.le_of_lt (length_scanBody hs)
        · simp at h
      · split at h
        · dsimp only at h
          split at h
          · simp only [Except.ok.injEq, Prod.mk.injEq] at h
            exact h.2 ▸ length_dropWhile_le _ cs
          · simp at h
        · split at h
          · simp only [Except.ok.injEq, Prod.mk.injEq] at h
            exact h.2 ▸ length_dropWhile_le _ cs
          · simp at h

/-- The tokens of a run of characters. -/
def tokens (cs : List Char) : Except SyntaxFault (List Token) :=
  match cs with
  | []      => .ok []
  | c :: cs =>
    if isBlank c then tokens cs
    else
      match _h : scanToken c cs with
      | .ok (tok, rest) => (tok :: ·) <$> tokens rest
      | .error fault    => .error fault
termination_by cs.length
decreasing_by
  · simp
  · exact Nat.lt_succ_of_le (length_scanToken _h)

end BoardConsole.Lexer

namespace BoardConsole

/-- The tokens of a line, or its first fault. -/
def tokenize (line : String) : Except SyntaxFault (List Token) :=
  Lexer.tokens line.toList

end BoardConsole
