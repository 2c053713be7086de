import BoardConsole.Script.Program
import Mathlib

/-!
# Script — The grammar of lines

Which token lists follow the grammar, and which program each of them stands for, as derivations:
`IsExpr`, `IsParts`, `IsStatement` and `IsProgram`.

* `ofTokens_of_isProgram`: a list that follows the grammar is read as the program it stands for.
  In particular it stands for one program only.
* `ofTokens_append_semi`: what stands behind such a list and a semicolon is read on its own.
-/

namespace BoardConsole.Script
open Program

mutual

/-- The tokens of an expression. -/
inductive IsExpr : List Token → Expr → Prop where
  | num (n : Int32) : IsExpr [.num n] (.num n)
  | str (text : String) : IsExpr [.str text] (.str text)
  | not {ts : List Token} {e : Expr} : IsExpr ts e → IsExpr (.bang :: ts) (.not e)
  | negate {ts : List Token} {e : Expr} : IsExpr ts e → IsExpr (.minus :: ts) (.negate e)
  | name (name : String) : IsExpr [.ident name] (.call name [])
  | callNone (name : String) : IsExpr [.ident name, .lparen, .rparen] (.call name [])
  | call (name : String) {ts : List Token} {es : List Expr} :
      IsParts ts es → IsExpr (.ident name :: .lparen :: (ts ++ [.rparen])) (.call name es)

/-- The tokens of a comma-separated list of expressions, at least one. -/
inductive IsParts : List Token → List Expr → Prop where
  | one {ts : List Token} {e : Expr} : IsExpr ts e → IsParts ts [e]
  | more {ts us : List Token} {e : Expr} {es : List Expr} :
      IsExpr ts e → IsParts us es → IsParts (ts ++ .comma :: us) (e :: es)

end

/-- The tokens do not begin with a keyword. -/
def NoKeyword (ts : List Token) : Prop :=
  ∀ word us, ts = .ident word :: us → word ∉ keywords

/-- The tokens of a statement. -/
inductive IsStatement : List Token → Statement → Prop where
  | define (name body : String) :
      IsStatement [.ident "function", .ident name, .body body] (.define name body)
  | removeAll : IsStatement [.ident "rm", .star] .removeAll
  | remove (name : String) : IsStatement [.ident "rm", .ident name] (.remove name)
  | list : IsStatement [.ident "ls"] .list
  | usage : IsStatement [.ident "peep"] .usage
  | tasks : IsStatement [.ident "ps"] .tasks
  | start (name : String) : IsStatement [.ident "run", .ident name] (.start name none)
  | startEvery (name : String) {ts : List Token} {e : Expr} :
      IsExpr ts e → IsStatement (.ident "run" :: .ident name :: .comma :: ts) (.start name (some e))
  | stopAll : IsStatement [.ident "stop"] (.stop none)
  | stop {ts : List Token} {e : Expr} :
      IsExpr ts e → IsStatement (.ident "stop" :: ts) (.stop (some e))
  | printNone : IsStatement [.ident "print"] (.print [])
  | print {ts : List Token} {es : List Expr} :
      IsParts ts es → IsStatement (.ident "print" :: ts) (.print es)
  | value {ts : List Token} {e : Expr} :
      IsExpr ts e → NoKeyword ts → IsStatement ts (.value e)

/-- The tokens of a line: statements with one semicolon or more between them, and any number of
semicolons before the first and after the last. -/
inductive IsProgram : List Token → Program → Prop where
  | nil : IsProgram [] []
  | semi {ts : List Token} {p : Program} : IsProgram ts p → IsProgram (.semi :: ts) p
  | last {ts : List Token} {s : Statement} : IsStatement ts s → IsProgram ts [s]
  | more {ts us : List Token} {s : Statement} {p : Program} :
      IsStatement ts s → IsProgram us p → IsProgram (ts ++ .semi :: us) (s :: p)

/-! ### What the readers find -/

/-- A reader finds `a` and leaves `rest`. -/
def Finds {α : Type} {ts : List Token} (found : α × Rest ts) (a : α) (rest : List Token) : Prop :=
  found.1 = a ∧ found.2.val = rest

theorem readExpr_bang {us rest : List Token} {e : Expr} (h : Finds (readExpr us) e rest) :
    Finds (readExpr (.bang :: us)) (.not e) rest := by
  rw [readExpr]
  exact ⟨congrArg Expr.not h.1, h.2⟩

theorem readExpr_minus {us rest : List Token} {e : Expr} (h : Finds (readExpr us) e rest) :
    Finds (readExpr (.minus :: us)) (.negate e) rest := by
  rw [readExpr]
  exact ⟨congrArg Expr.negate h.1, h.2⟩

theorem readExpr_num (n : Int32) (rest : List Token) :
    Finds (readExpr (.num n :: rest)) (.num n) rest := by
  rw [readExpr]
  exact ⟨rfl, rfl⟩

theorem readExpr_str (text : String) (rest : List Token) :
    Finds (readExpr (.str text :: rest)) (.str text) rest := by
  rw [readExpr]
  exact ⟨rfl, rfl⟩

theorem readExpr_name (name : String) {rest : List Token} (h : rest.head? ≠ some .lparen) :
    Finds (readExpr (.ident name :: rest)) (.call name []) rest := by
  rw [readExpr]
  · exact ⟨rfl, rfl⟩
  · rintro us rfl
    exact h rfl
  · rintro us rfl
    exact h rfl

theorem readExpr_callNone (name : String) (rest : List Token) :
    Finds (readExpr (.ident name :: .lparen :: .rparen :: rest)) (.call name []) rest := by
  rw [readExpr]
  exact ⟨rfl, rfl⟩

theorem readExpr_call (name : String) {us rest : List Token} {es : List Expr}
    (hne : us.head? ≠ some .rparen) (h : Finds (readArgs us) es rest) :
    Finds (readExpr (.ident name :: .lparen :: us)) (.call name es) rest := by
  rw [readExpr]
  · exact ⟨congrArg (Expr.call name) h.1, h.2⟩
  · rintro vs rfl
    exact hne rfl

theorem readArgs_comma {ts us rest : List Token} {e : Expr} {es : List Expr}
    (he : Finds (readExpr ts) e (.comma :: us)) (hes : Finds (readArgs us) es rest) :
    Finds (readArgs ts) (e :: es) rest := by
  obtain ⟨he₁, he₂⟩ := he
  rw [readArgs]
  rcases hread : readExpr ts with ⟨e', rest', hsuf⟩
  rw [hread] at he₁ he₂
  subst he₁ he₂
  exact ⟨congrArg (List.cons e') hes.1, hes.2⟩

theorem readArgs_rparen {ts rest : List Token} {e : Expr}
    (he : Finds (readExpr ts) e (.rparen :: rest)) : Finds (readArgs ts) [e] rest := by
  obtain ⟨he₁, he₂⟩ := he
  rw [readArgs]
  rcases hread : readExpr ts with ⟨e', rest', hsuf⟩
  rw [hread] at he₁ he₂
  subst he₁ he₂
  exact ⟨rfl, rfl⟩

theorem readArgs_other {ts rest : List Token} {e : Expr} (he : Finds (readExpr ts) e rest)
    (hcomma : rest.head? ≠ some .comma) (hparen : rest.head? ≠ some .rparen) :
    Finds (readArgs ts) [e, .fault .closeExpected] [] := by
  obtain ⟨he₁, he₂⟩ := he
  rw [readArgs]
  rcases hread : readExpr ts with ⟨e', rest', hsuf⟩
  rw [hread] at he₁ he₂
  subst he₁ he₂
  rcases rest' with _ | ⟨tok, us⟩
  · exact ⟨rfl, rfl⟩
  · cases tok <;> first | exact ⟨rfl, rfl⟩ | exact absurd rfl hcomma | exact absurd rfl hparen

theorem readParts_comma {ts us rest : List Token} {e : Expr} {es : List Expr}
    (he : Finds (readExpr ts) e (.comma :: us)) (hes : Finds (readParts us) es rest) :
    Finds (readParts ts) (e :: es) rest := by
  obtain ⟨he₁, he₂⟩ := he
  rw [readParts]
  rcases hread : readExpr ts with ⟨e', rest', hsuf⟩
  rw [hread] at he₁ he₂
  subst he₁ he₂
  exact ⟨congrArg (List.cons e') hes.1, hes.2⟩

theorem readParts_other {ts rest : List Token} {e : Expr} (he : Finds (readExpr ts) e rest)
    (hcomma : rest.head? ≠ some .comma) : Finds (readParts ts) [e] rest := by
  obtain ⟨he₁, he₂⟩ := he
  rw [readParts]
  rcases hread : readExpr ts with ⟨e', rest', hsuf⟩
  rw [hread] at he₁ he₂
  subst he₁ he₂
  rcases rest' with _ | ⟨tok, us⟩
  · exact ⟨rfl, rfl⟩
  · cases tok <;> first | exact ⟨rfl, rfl⟩ | exact absurd rfl hcomma

theorem readStatement_keyword {word : String} {us rest : List Token} {s : Statement}
    (hword : word ∈ keywords) (h : Finds (readKeyword word us) s rest) :
    Finds (readStatement (.ident word :: us)) s rest := by
  rw [readStatement, if_pos (List.contains_iff_mem.mpr hword)]
  exact h

theorem readStatement_value {ts rest : List Token} {e : Expr} (hts : NoKeyword ts)
    (h : Finds (readExpr ts) e rest) : Finds (readStatement ts) (.value e) rest := by
  rcases ts with _ | ⟨tok, us⟩
  · exact ⟨congrArg Statement.value h.1, h.2⟩
  · cases tok with
    | ident word =>
      have hword : ¬ keywords.contains word = true := fun hc =>
        hts word us rfl (List.contains_iff_mem.mp hc)
      rw [readStatement, if_neg hword]
      exact ⟨congrArg Statement.value h.1, h.2⟩
    | _ => exact ⟨congrArg Statement.value h.1, h.2⟩

theorem ofTokens_last {ts : List Token} {s : Statement} (hne : ts ≠ [])
    (hsemi : ts.head? ≠ some .semi) (h : Finds (readStatement ts) s []) : ofTokens ts = [s] := by
  obtain ⟨tok, us, rfl⟩ := List.exists_cons_of_ne_nil hne
  obtain ⟨h₁, h₂⟩ := h
  rw [ofTokens]
  · rcases hread : readStatement (tok :: us) with ⟨s', rest', hsuf⟩
    rw [hread] at h₁ h₂
    subst h₁ h₂
    rfl
  · rintro rfl
    exact hsemi rfl

theorem ofTokens_more {ts us : List Token} {s : Statement} (hsemi : ts.head? ≠ some .semi)
    (h : Finds (readStatement ts) s (.semi :: us)) : ofTokens ts = s :: ofTokens us := by
  obtain ⟨h₁, h₂⟩ := h
  rcases ts with _ | ⟨tok, ts⟩
  · have := (readStatement []).2.property
    rw [h₂] at this
    exact absurd (List.eq_nil_of_suffix_nil this) (List.cons_ne_nil _ _)
  · rw [ofTokens]
    · rcases hread : readStatement (tok :: ts) with ⟨s', rest', hsuf⟩
      rw [hread] at h₁ h₂
      subst h₁ h₂
      rfl
    · rintro rfl
      exact hsemi rfl

theorem ofTokens_other {ts us : List Token} {s : Statement} {tok : Token}
    (hsemi : ts.head? ≠ some .semi) (htok : tok ≠ .semi)
    (h : Finds (readStatement ts) s (tok :: us)) :
    ofTokens ts = [s, .fault (.unexpected tok)] := by
  obtain ⟨h₁, h₂⟩ := h
  rcases ts with _ | ⟨first, ts⟩
  · have := (readStatement []).2.property
    rw [h₂] at this
    exact absurd (List.eq_nil_of_suffix_nil this) (List.cons_ne_nil _ _)
  · rw [ofTokens]
    · rcases hread : readStatement (first :: ts) with ⟨s', rest', hsuf⟩
      rw [hread] at h₁ h₂
      subst h₁ h₂
      cases tok <;> first | rfl | exact absurd rfl htok
    · rintro rfl
      exact hsemi rfl

/-! ### A list that follows the grammar -/

theorem IsExpr.head {ts : List Token} {e : Expr} (h : IsExpr ts e) :
    ∃ tok us, ts = tok :: us ∧ tok ≠ .semi ∧ tok ≠ .rparen := by
  cases h <;> exact ⟨_, _, rfl, by simp, by simp⟩

theorem IsParts.head {ts : List Token} {es : List Expr} (h : IsParts ts es) :
    ∃ tok us, ts = tok :: us ∧ tok ≠ .semi ∧ tok ≠ .rparen := by
  cases h with
  | one he => exact he.head
  | more he _ =>
      obtain ⟨tok, us, rfl, hne⟩ := he.head
      exact ⟨tok, _, rfl, hne⟩

theorem IsStatement.head {ts : List Token} {s : Statement} (h : IsStatement ts s) :
    ∃ tok us, ts = tok :: us ∧ tok ≠ .semi := by
  cases h with
  | value he _ =>
      obtain ⟨tok, us, rfl, hne, -⟩ := he.head
      exact ⟨tok, us, rfl, hne⟩
  | _ => exact ⟨_, _, rfl, by simp⟩

/-- **Expressions are read as they are derived**, with whatever follows them, where no parenthesis
follows a name. -/
theorem reads_of_isExpr_and_isParts :
    (∀ ts e, IsExpr ts e → ∀ rest, rest.head? ≠ some .lparen →
      Finds (readExpr (ts ++ rest)) e rest) ∧
    (∀ ts es, IsParts ts es → ∀ rest, Finds (readArgs (ts ++ .rparen :: rest)) es rest) := by
  let P := fun ts e (_ : IsExpr ts e) => ∀ rest, rest.head? ≠ some .lparen →
    Finds (readExpr (ts ++ rest)) e rest
  let Q := fun ts es (_ : IsParts ts es) => ∀ rest,
    Finds (readArgs (ts ++ .rparen :: rest)) es rest
  have num : ∀ n, P _ _ (.num n) := fun n rest _ => readExpr_num n rest
  have str : ∀ text, P _ _ (.str text) := fun text rest _ => readExpr_str text rest
  have bang : ∀ {ts e} (h : IsExpr ts e), P ts e h → P _ _ (.not h) :=
    fun _ ih rest hrest => readExpr_bang (ih rest hrest)
  have minus : ∀ {ts e} (h : IsExpr ts e), P ts e h → P _ _ (.negate h) :=
    fun _ ih rest hrest => readExpr_minus (ih rest hrest)
  have name : ∀ name, P _ _ (.name name) := fun name rest hrest => readExpr_name name hrest
  have callNone : ∀ name, P _ _ (.callNone name) := fun name rest _ => readExpr_callNone name rest
  have call : ∀ name {ts es} (h : IsParts ts es), Q ts es h → P _ _ (.call name h) := by
    intro name ts es h ih rest _
    obtain ⟨tok, us, rfl, -, hne⟩ := h.head
    have hts : .ident name :: .lparen :: (tok :: us ++ [.rparen]) ++ rest
        = .ident name :: .lparen :: (tok :: us ++ .rparen :: rest) := by simp
    rw [hts]
    exact readExpr_call name (by simpa using hne) (ih rest)
  have one : ∀ {ts e} (h : IsExpr ts e), P ts e h → Q _ _ (.one h) :=
    fun _ ih rest => readArgs_rparen (ih _ (by simp))
  have more : ∀ {ts us e es} (h : IsExpr ts e) (h' : IsParts us es), P ts e h → Q us es h' →
      Q _ _ (.more h h') := by
    intro ts us e es h h' ih ih' rest
    rw [List.append_assoc, List.cons_append]
    exact readArgs_comma (ih _ (by simp)) (ih' rest)
  exact ⟨fun ts e h => @IsExpr.rec P Q num str bang minus name callNone call one more ts e h,
    fun ts es h => @IsParts.rec P Q num str bang minus name callNone call one more ts es h⟩

theorem readExpr_of_isExpr {ts : List Token} {e : Expr} (h : IsExpr ts e) {rest : List Token}
    (hrest : rest.head? ≠ some .lparen) : Finds (readExpr (ts ++ rest)) e rest :=
  reads_of_isExpr_and_isParts.1 ts e h rest hrest

theorem readParts_of_isParts {ts : List Token} {es : List Expr} (h : IsParts ts es)
    {rest : List Token} (hparen : rest.head? ≠ some .lparen) (hcomma : rest.head? ≠ some .comma) :
    Finds (readParts (ts ++ rest)) es rest := by
  induction es generalizing ts with
  | nil => cases h
  | cons e es ih =>
      cases h with
      | one he => exact readParts_other (readExpr_of_isExpr he hparen) hcomma
      | @more ts us _ _ he hes =>
          rw [List.append_assoc, List.cons_append]
          exact readParts_comma (readExpr_of_isExpr he (by simp)) (ih hes)

theorem atEnd_append {ts : List Token} (rest : List Token)
    (h : ∃ tok us, ts = tok :: us ∧ tok ≠ .semi ∧ tok ≠ .rparen) : atEnd (ts ++ rest) = false := by
  obtain ⟨tok, us, rfl, hne, -⟩ := h
  cases tok <;> first | rfl | exact absurd rfl hne

/-- **Statements are read as they are derived**, up to the end of the line or a semicolon. -/
theorem readStatement_of_isStatement {ts : List Token} {s : Statement} (h : IsStatement ts s)
    {rest : List Token} (hrest : atEnd rest = true) :
    Finds (readStatement (ts ++ rest)) s rest := by
  have hparen : rest.head? ≠ some .lparen := by rintro h; cases rest <;> simp_all [atEnd]
  have hcomma : rest.head? ≠ some .comma := by rintro h; cases rest <;> simp_all [atEnd]
  cases h with
  | define name body => exact readStatement_keyword (by decide) ⟨rfl, rfl⟩
  | removeAll => exact readStatement_keyword (by decide) ⟨rfl, rfl⟩
  | remove name => exact readStatement_keyword (by decide) ⟨rfl, rfl⟩
  | list => exact readStatement_keyword (by decide) ⟨rfl, rfl⟩
  | usage => exact readStatement_keyword (by decide) ⟨rfl, rfl⟩
  | tasks => exact readStatement_keyword (by decide) ⟨rfl, rfl⟩
  | start name =>
      refine readStatement_keyword (by decide) ?_
      rcases rest with _ | ⟨tok, us⟩
      · exact ⟨rfl, rfl⟩
      · cases tok <;> first | exact ⟨rfl, rfl⟩ | exact absurd rfl hcomma
  | @startEvery name ts e he =>
      refine readStatement_keyword (by decide) ?_
      obtain ⟨h₁, h₂⟩ := readExpr_of_isExpr he hparen
      exact ⟨congrArg (Statement.start name ∘ some) h₁, h₂⟩
  | stopAll =>
      refine readStatement_keyword (by decide) ?_
      show Finds (readStop rest) _ _
      rw [readStop, if_pos hrest]
      exact ⟨rfl, rfl⟩
  | @stop ts e he =>
      refine readStatement_keyword (by decide) ?_
      show Finds (readStop (ts ++ rest)) _ _
      obtain ⟨h₁, h₂⟩ := readExpr_of_isExpr he hparen
      rw [readStop, atEnd_append rest he.head]
      exact ⟨congrArg (Statement.stop ∘ some) h₁, h₂⟩
  | printNone =>
      refine readStatement_keyword (by decide) ?_
      show Finds (readPrint rest) _ _
      rw [readPrint, if_pos hrest]
      exact ⟨rfl, rfl⟩
  | @print ts es hes =>
      refine readStatement_keyword (by decide) ?_
      show Finds (readPrint (ts ++ rest)) _ _
      obtain ⟨h₁, h₂⟩ := readParts_of_isParts hes hparen hcomma
      rw [readPrint, atEnd_append rest hes.head]
      exact ⟨congrArg Statement.print h₁, h₂⟩
  | value he hts =>
      refine readStatement_value ?_ (readExpr_of_isExpr he hparen)
      obtain ⟨tok, us, rfl, -, -⟩ := he.head
      rintro word vs heq
      exact hts word us (by rw [List.cons_append, List.cons.injEq] at heq; rw [heq.1])

/-- **A list that follows the grammar is read as the program it stands for.** -/
theorem ofTokens_of_isProgram {ts : List Token} {p : Program} (h : IsProgram ts p) :
    ofTokens ts = p := by
  induction h with
  | nil => rw [ofTokens]
  | semi _ ih => rw [ofTokens, ih]
  | @last ts s hs =>
      obtain ⟨tok, us, rfl, hne⟩ := hs.head
      refine ofTokens_last (List.cons_ne_nil _ _) (by simpa using hne) ?_
      rw [← List.append_nil (tok :: us)]
      exact readStatement_of_isStatement hs rfl
  | @more ts us s p hs _ ih =>
      obtain ⟨tok, vs, rfl, hne⟩ := hs.head
      rw [ofTokens_more (by simpa using hne) (readStatement_of_isStatement hs rfl), ih]

theorem ofTokens_append_semi {ts : List Token} {p : Program} (h : IsProgram ts p)
    (rest : List Token) : ofTokens (ts ++ .semi :: rest) = p ++ ofTokens rest := by
  induction h with
  | nil =>
      rw [List.nil_append, ofTokens]
      rfl
  | semi _ ih => rw [List.cons_append, ofTokens, ih]
  | @last ts s hs =>
      obtain ⟨tok, us, rfl, hne⟩ := hs.head
      rw [ofTokens_more (by simpa using hne) (readStatement_of_isStatement hs rfl)]
      rfl
  | @more ts us s p hs _ ih =>
      obtain ⟨tok, vs, rfl, hne⟩ := hs.head
      have hts : tok :: vs ++ .semi :: us ++ .semi :: rest
          = tok :: vs ++ .semi :: (us ++ .semi :: rest) := by simp
      rw [hts, ofTokens_more (by simpa using hne) (readStatement_of_isStatement hs rfl), ih]
      rfl

/-- The grammar is unambiguous. -/
theorem IsProgram.unique {ts : List Token} {p q : Program} (hp : IsProgram ts p)
    (hq : IsProgram ts q) : p = q :=
  (ofTokens_of_isProgram hp).symm.trans (ofTokens_of_isProgram hq)

end BoardConsole.Script
