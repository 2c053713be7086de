import BoardConsole.Proofs.Script.Grammar

/-!
# Script — What a prefix of a line settles

A reader that has come to the end of the tokens so far is in one of four cases (`Settles`): they are
what it looks for, or begin with it and a token that cannot belong to it; or they can still become
what it looks for, though they are not yet; or they cannot, and what follows them is not read.

* `faulty_iff`: a list of tokens is read as a program with a fault exactly if it does not follow the
  grammar.
* `ofTokens_append_of_not_viable`: where no line beginning with `pre` follows the grammar, what
  follows `pre` is not read.
-/

namespace BoardConsole

mutual

/-- A fault stands in the expression. -/
def Expr.Faulty : Expr → Prop
  | .num _       => False
  | .str _       => False
  | .not e       => e.Faulty
  | .negate e    => e.Faulty
  | .call _ args => Expr.AnyFaulty args
  | .fault _     => True

/-- A fault stands in one of the expressions. -/
def Expr.AnyFaulty : List Expr → Prop
  | []      => False
  | e :: es => e.Faulty ∨ Expr.AnyFaulty es

end

/-- A fault stands in the statement. -/
def Statement.Faulty : Statement → Prop
  | .start _ (some e) => e.Faulty
  | .stop (some e)    => e.Faulty
  | .print parts      => Expr.AnyFaulty parts
  | .value e          => e.Faulty
  | .fault _          => True
  | _                 => False

/-- A fault stands in the program. -/
def Program.Faulty (p : Program) : Prop := ∃ s ∈ p, s.Faulty

end BoardConsole

namespace BoardConsole.Script
open Program

/-- What the tokens `pre` settle for a reader of what `Is` derives, whatever follows them. -/
inductive Settles {α : Type} (Is : List Token → α → Prop) (Faulty : α → Prop)
    (read : (ts : List Token) → α × Rest ts) (pre : List Token) : Prop where
  /-- They are all of it. -/
  | whole (a : α) : Is pre a → Settles Is Faulty read pre
  /-- They begin with it, and the next token is not part of it. -/
  | done (used : List Token) (tok : Token) (us : List Token) (a : α) :
      pre = used ++ tok :: us → Is used a →
      (∀ rest, Finds (read (pre ++ rest)) a (tok :: us ++ rest)) → Settles Is Faulty read pre
  /-- They are the beginning of it. -/
  | cut (more : List Token) (a b : α) :
      Is (pre ++ more) a → Faulty b → Finds (read pre) b [] → Settles Is Faulty read pre
  /-- They cannot become it. -/
  | fault (b : α) :
      Faulty b → (∀ rest, Finds (read (pre ++ rest)) b []) → Settles Is Faulty read pre

section Settles
variable {α β : Type} {Is : List Token → α → Prop} {Faulty : α → Prop}
  {read : (ts : List Token) → α × Rest ts} {Is' : List Token → β → Prop} {Faulty' : β → Prop}
  {read' : (ts : List Token) → β × Rest ts}

theorem Settles.of_whole {used : List Token} {a : α} (h : Is used a)
    (hread : ∀ rest, Finds (read (used ++ rest)) a rest) (us : List Token) :
    Settles Is Faulty read (used ++ us) := by
  rcases us with _ | ⟨tok, us⟩
  · exact .whole a (by rwa [List.append_nil])
  · exact .done used tok us a rfl h fun rest => by
      rw [List.append_assoc]
      exact hread _

/-- A piece at the end of a larger one settles the larger one. -/
theorem Settles.wrap {us : List Token} (h : Settles Is Faulty read us) (front : List Token)
    (f : α → β) (hIs : ∀ ts a, Is ts a → Is' (front ++ ts) (f a))
    (hFaulty : ∀ a, Faulty a → Faulty' (f a))
    (hread : ∀ more a rest, Finds (read (us ++ more)) a rest →
      Finds (read' (front ++ (us ++ more))) (f a) rest) :
    Settles Is' Faulty' read' (front ++ us) := by
  cases h with
  | whole a h => exact .whole (f a) (hIs us a h)
  | done used tok vs a heq h hfinds =>
      refine .done (front ++ used) tok vs (f a) (by rw [heq, List.append_assoc]) (hIs _ a h)
        fun rest => ?_
      rw [List.append_assoc]
      exact hread rest a _ (hfinds rest)
  | cut more a b h hb hfinds =>
      refine .cut more (f a) (f b) (by rw [List.append_assoc]; exact hIs _ a h) (hFaulty b hb) ?_
      have hread := hread [] b []
      rw [List.append_nil] at hread
      exact hread hfinds
  | fault b hb hfinds =>
      refine .fault (f b) (hFaulty b hb) fun rest => ?_
      rw [List.append_assoc]
      exact hread rest b [] (hfinds rest)

end Settles

/-! ### Expressions -/

/-- The tokens of an argument list behind its opening parenthesis. -/
def IsArgs (ts : List Token) (es : List Expr) : Prop := ∃ us, ts = us ++ [.rparen] ∧ IsParts us es

theorem readArgs_of_isArgs {ts : List Token} {es : List Expr} (h : IsArgs ts es)
    (rest : List Token) : Finds (readArgs (ts ++ rest)) es rest := by
  obtain ⟨us, rfl, h⟩ := h
  rw [List.append_assoc]
  exact reads_of_isExpr_and_isParts.2 us es h rest

theorem anyFaulty_cons (e : Expr) (es : List Expr) (h : Expr.AnyFaulty es) :
    Expr.AnyFaulty (e :: es) :=
  .inr h

theorem settles_stray {tok : Token} (us : List Token)
    (h : ∀ rest, readExpr (tok :: rest) = (.fault (.unexpected tok), .none)) :
    Settles IsExpr Expr.Faulty readExpr (tok :: us) :=
  .fault (.fault (.unexpected tok)) trivial fun rest => by
    rw [List.cons_append, h]
    exact ⟨rfl, rfl⟩

theorem settles_name (name : String) (us : List Token)
    (hargs : ∀ vs, us = .lparen :: vs → Settles IsArgs Expr.AnyFaulty readArgs vs) :
    Settles IsExpr Expr.Faulty readExpr (.ident name :: us) := by
  rcases us with _ | ⟨tok, us⟩
  · exact .whole _ (.name name)
  by_cases htok : tok = .lparen
  · subst htok
    rcases us with _ | ⟨tok, us⟩
    · refine .cut [.rparen] _ (.call name (readArgs []).1) (.callNone name) ?_
        (readExpr_call name (by simp) ⟨rfl, List.suffix_nil.mp (readArgs []).2.property⟩)
      rw [readArgs, readExpr]
      exact .inl trivial
    by_cases htok : tok = .rparen
    · subst htok
      exact Settles.of_whole (IsExpr.callNone name) (readExpr_callNone name) us
    · refine (hargs _ rfl).wrap [.ident name, .lparen] (Expr.call name) ?_ (fun _ h => h)
        fun _ _ _ h => readExpr_call name (by simpa using htok) h
      rintro ts es ⟨us, rfl, h⟩
      exact .call name h
  · exact .done [.ident name] tok us _ rfl (.name name)
      fun rest => readExpr_name name (by simpa using htok)

theorem settles_args {pre : List Token} (hexpr : Settles IsExpr Expr.Faulty readExpr pre)
    (hargs : ∀ us, us.length < pre.length → Settles IsArgs Expr.AnyFaulty readArgs us) :
    Settles IsArgs Expr.AnyFaulty readArgs pre := by
  cases hexpr with
  | whole e h =>
      have hread : Finds (readExpr (pre ++ [])) e [] := readExpr_of_isExpr h (by simp)
      rw [List.append_nil] at hread
      exact .cut [.rparen] [e] [e, .fault .closeExpected] ⟨pre, rfl, .one h⟩ (.inr (.inl trivial))
        (readArgs_other hread (by simp) (by simp))
  | done used tok us e heq h hread =>
      by_cases hcomma : tok = .comma
      · subst hcomma
        have hlt : us.length < pre.length := by
          rw [heq, List.length_append, List.length_cons]
          omega
        have hpre : pre = used ++ [.comma] ++ us := by simp [heq]
        rw [hpre] at hread ⊢
        refine (hargs us hlt).wrap (used ++ [.comma]) (List.cons e) ?_ (anyFaulty_cons e)
          fun more es rest hes => ?_
        · rintro ts es ⟨vs, rfl, hes⟩
          exact ⟨used ++ .comma :: vs, by simp, .more h hes⟩
        · rw [← List.append_assoc]
          exact readArgs_comma (hread more) hes
      by_cases hparen : tok = .rparen
      · subst hparen
        have hargs : IsArgs (used ++ [.rparen]) [e] := ⟨used, rfl, .one h⟩
        have hpre : pre = used ++ [.rparen] ++ us := by simp [heq]
        rw [hpre]
        exact .of_whole hargs (readArgs_of_isArgs hargs) us
      · exact .fault [e, .fault .closeExpected] (.inr (.inl trivial)) fun rest =>
          readArgs_other (hread rest) (by simpa using hcomma) (by simpa using hparen)
  | cut more e e' h he hread =>
      exact .cut (more ++ [.rparen]) [e] [e', .fault .closeExpected]
        ⟨pre ++ more, by simp, .one h⟩ (.inl he) (readArgs_other hread (by simp) (by simp))
  | fault e he hread =>
      exact .fault [e, .fault .closeExpected] (.inl he) fun rest =>
        readArgs_other (hread rest) (by simp) (by simp)

mutual

theorem settles_readExpr (pre : List Token) : Settles IsExpr Expr.Faulty readExpr pre := by
  match pre with
  | [] =>
      refine .cut [.num 0] (.num 0) (.fault .expressionExpected) (.num 0) trivial ?_
      rw [readExpr]
      exact ⟨rfl, rfl⟩
  | .bang :: us =>
      exact (settles_readExpr us).wrap [.bang] Expr.not (fun _ _ h => .not h) (fun _ h => h)
        fun _ _ _ h => readExpr_bang h
  | .minus :: us =>
      exact (settles_readExpr us).wrap [.minus] Expr.negate (fun _ _ h => .negate h) (fun _ h => h)
        fun _ _ _ h => readExpr_minus h
  | .num n :: us => exact Settles.of_whole (IsExpr.num n) (readExpr_num n) us
  | .str text :: us => exact Settles.of_whole (IsExpr.str text) (readExpr_str text) us
  | .ident name :: us => exact settles_name name us fun vs _ => settles_readArgs vs
  | .body text :: us | .lparen :: us | .rparen :: us | .comma :: us | .semi :: us | .star :: us =>
      exact settles_stray us fun rest => by rw [readExpr] <;> nofun
termination_by (pre.length, 0)

/-- The arguments up to the closing parenthesis. -/
theorem settles_readArgs (pre : List Token) : Settles IsArgs Expr.AnyFaulty readArgs pre :=
  settles_args (settles_readExpr pre) fun us _ => settles_readArgs us
termination_by (pre.length, 1)

end

theorem settles_readParts (pre : List Token) :
    Settles IsParts Expr.AnyFaulty readParts pre := by
  induction hn : pre.length using Nat.strongRecOn generalizing pre with
  | _ n ih =>
  cases settles_readExpr pre with
  | whole e h => exact .whole [e] (.one h)
  | done used tok us e heq h hread =>
      by_cases hcomma : tok = .comma
      · subst hcomma
        have hlt : us.length < n := by
          rw [← hn, heq, List.length_append, List.length_cons]
          omega
        have hpre : pre = used ++ [.comma] ++ us := by simp [heq]
        rw [hpre] at hread ⊢
        refine (ih _ hlt us rfl).wrap (used ++ [.comma]) (List.cons e) ?_ (anyFaulty_cons e)
          fun more es rest hes => ?_
        · intro ts es hes
          rw [List.append_assoc]
          exact .more h hes
        · rw [← List.append_assoc]
          exact readParts_comma (hread more) hes
      · exact .done used tok us [e] heq (.one h) fun rest =>
          readParts_other (hread rest) (by simpa using hcomma)
  | cut more e e' h he hread =>
      exact .cut more [e] [e'] (.one h) (.inl he) (readParts_other hread (by simp))
  | fault e he hread =>
      exact .fault [e] (.inl he) fun rest => readParts_other (hread rest) (by simp)

/-! ### Statements -/

theorem settles_fault {word : String} (us : List Token) {fault : SyntaxFault}
    (hword : word ∈ keywords)
    (h : ∀ rest, readKeyword word (us ++ rest) = (.fault fault, .none)) :
    Settles IsStatement Statement.Faulty readStatement (.ident word :: us) :=
  .fault (.fault fault) trivial fun rest =>
    readStatement_keyword hword (by
      show Finds (readKeyword word (us ++ rest)) _ _
      rw [h]
      exact ⟨rfl, rfl⟩)

theorem settles_cut {word : String} {us : List Token} (more : List Token) {s : Statement}
    {fault : SyntaxFault} (hword : word ∈ keywords) (hs : IsStatement (.ident word :: us ++ more) s)
    (h : readKeyword word us = (.fault fault, .none)) :
    Settles IsStatement Statement.Faulty readStatement (.ident word :: us) :=
  .cut more s (.fault fault) hs trivial (readStatement_keyword hword (by
    rw [h]
    exact ⟨rfl, rfl⟩))

theorem settles_define (us : List Token) :
    Settles IsStatement Statement.Faulty readStatement (.ident "function" :: us) := by
  rcases us with _ | ⟨tok, us⟩
  · exact settles_cut [.ident "", .body ""] (by decide) (.define "" "") rfl
  cases tok with
  | ident name =>
      rcases us with _ | ⟨tok, us⟩
      · exact settles_cut [.body ""] (by decide) (.define name "") rfl
      cases tok with
      | body text =>
          exact Settles.of_whole (IsStatement.define name text)
            (fun rest => readStatement_keyword (by decide) ⟨rfl, rfl⟩) us
      | _ => exact settles_fault _ (by decide) fun rest => rfl
  | _ => exact settles_fault _ (by decide) fun rest => rfl

theorem settles_remove (us : List Token) :
    Settles IsStatement Statement.Faulty readStatement (.ident "rm" :: us) := by
  rcases us with _ | ⟨tok, us⟩
  · exact settles_cut [.star] (by decide) .removeAll rfl
  cases tok with
  | star =>
      exact Settles.of_whole IsStatement.removeAll
        (fun rest => readStatement_keyword (by decide) ⟨rfl, rfl⟩) us
  | ident name =>
      exact Settles.of_whole (IsStatement.remove name)
        (fun rest => readStatement_keyword (by decide) ⟨rfl, rfl⟩) us
  | _ => exact settles_fault _ (by decide) fun rest => rfl

theorem settles_start (us : List Token) :
    Settles IsStatement Statement.Faulty readStatement (.ident "run" :: us) := by
  rcases us with _ | ⟨tok, us⟩
  · exact settles_cut [.ident ""] (by decide) (.start "") rfl
  cases tok with
  | ident name =>
      rcases us with _ | ⟨tok, us⟩
      · exact .whole _ (.start name)
      cases tok with
      | comma =>
          refine (settles_readExpr us).wrap [.ident "run", .ident name, .comma]
            (Statement.start name ∘ some) (fun _ _ h => .startEvery name h) (fun _ h => h)
            fun more e rest h => readStatement_keyword (by decide) ?_
          exact ⟨congrArg (Statement.start name ∘ some) h.1, h.2⟩
      | _ =>
          exact .done [.ident "run", .ident name] _ us _ rfl (.start name)
            fun rest => readStatement_keyword (by decide) ⟨rfl, rfl⟩
  | _ => exact settles_fault _ (by decide) fun rest => rfl

theorem settles_stop (us : List Token) :
    Settles IsStatement Statement.Faulty readStatement (.ident "stop" :: us) := by
  rcases us with _ | ⟨tok, us⟩
  · exact .whole _ .stopAll
  by_cases hsemi : tok = .semi
  · subst hsemi
    exact .done [.ident "stop"] .semi us _ rfl .stopAll
      fun rest => readStatement_keyword (by decide) ⟨rfl, rfl⟩
  · refine (settles_readExpr (tok :: us)).wrap [.ident "stop"] (Statement.stop ∘ some)
      (fun _ _ h => .stop h) (fun _ h => h) fun more e rest h =>
        readStatement_keyword (by decide) ?_
    show Finds (readStop (tok :: us ++ more)) _ _
    rw [readStop, if_neg (by cases tok <;> simp_all [atEnd])]
    exact ⟨congrArg (Statement.stop ∘ some) h.1, h.2⟩

theorem settles_print (us : List Token) :
    Settles IsStatement Statement.Faulty readStatement (.ident "print" :: us) := by
  rcases us with _ | ⟨tok, us⟩
  · exact .whole _ .printNone
  by_cases hsemi : tok = .semi
  · subst hsemi
    exact .done [.ident "print"] .semi us _ rfl .printNone
      fun rest => readStatement_keyword (by decide) ⟨rfl, rfl⟩
  · refine (settles_readParts (tok :: us)).wrap [.ident "print"] Statement.print
      (fun _ _ h => .print h) (fun _ h => h) fun more e rest h =>
        readStatement_keyword (by decide) ?_
    show Finds (readPrint (tok :: us ++ more)) _ _
    rw [readPrint, if_neg (by cases tok <;> simp_all [atEnd])]
    exact ⟨congrArg Statement.print h.1, h.2⟩

theorem settles_value {tok : Token} {us : List Token}
    (h : ∀ more, NoKeyword (tok :: us ++ more)) :
    Settles IsStatement Statement.Faulty readStatement (tok :: us) := by
  have hno : ∀ {used vs}, tok :: us = used ++ vs → used ≠ [] → NoKeyword used := by
    rintro (_ | ⟨first, used⟩) vs heq hne
    · exact absurd rfl hne
    · rintro word ws hused
      rw [List.cons.injEq] at hused
      rw [List.cons_append, List.cons.injEq] at heq
      exact h [] word _ (by rw [heq.1, hused.1]; rfl)
  cases settles_readExpr (tok :: us) with
  | whole e he => exact .whole _ (.value he (by simpa using h []))
  | done used tok vs e heq he hread =>
      obtain ⟨first, used', hused, -⟩ := he.head
      exact .done used tok vs _ heq (.value he (hno heq (by simp [hused])))
        fun rest => readStatement_value (h rest) (hread rest)
  | cut more e e' he hfaulty hread =>
      exact .cut more _ (.value e') (.value he (h more)) hfaulty
        (readStatement_value (by simpa using h []) hread)
  | fault e hfaulty hread =>
      exact .fault (.value e) hfaulty fun rest => readStatement_value (h rest) (hread rest)

theorem settles_readStatement (pre : List Token) (hne : pre ≠ []) :
    Settles IsStatement Statement.Faulty readStatement pre := by
  obtain ⟨tok, us, rfl⟩ := List.exists_cons_of_ne_nil hne
  by_cases hword : ∃ word ∈ keywords, tok = .ident word
  · obtain ⟨word, hword, rfl⟩ := hword
    simp only [keywords, List.mem_cons, List.not_mem_nil, or_false] at hword
    rcases hword with rfl | rfl | rfl | rfl | rfl | rfl | rfl | rfl
    · exact settles_define us
    · exact settles_remove us
    · exact Settles.of_whole IsStatement.list
        (fun rest => readStatement_keyword (by decide) ⟨rfl, rfl⟩) us
    · exact Settles.of_whole IsStatement.usage
        (fun rest => readStatement_keyword (by decide) ⟨rfl, rfl⟩) us
    · exact Settles.of_whole IsStatement.tasks
        (fun rest => readStatement_keyword (by decide) ⟨rfl, rfl⟩) us
    · exact settles_start us
    · exact settles_stop us
    · exact settles_print us
  · refine settles_value fun more word vs heq hmem => hword ⟨word, hmem, ?_⟩
    rw [List.cons_append, List.cons.injEq] at heq
    exact heq.1

/-! ### Lines -/

/-- **What the tokens so far settle for a line.** They follow the grammar; or they are read as a
program with a fault, and then they can still be the beginning of a line that follows the grammar,
or what follows them is not read. -/
theorem isProgram_or_faulty (ts : List Token) :
    (∃ p, IsProgram ts p) ∨
      (ofTokens ts).Faulty ∧
        ((∃ more p, IsProgram (ts ++ more) p) ∨ ∀ rest, ofTokens (ts ++ rest) = ofTokens ts) := by
  induction hn : ts.length using Nat.strongRecOn generalizing ts with
  | _ n ih =>
  by_cases hnil : ts = []
  · exact .inl ⟨[], hnil ▸ .nil⟩
  by_cases hsemi : ts.head? = some .semi
  · obtain ⟨us, rfl⟩ : ∃ us, ts = .semi :: us := by
      cases ts with
      | nil => simp at hsemi
      | cons tok us => exact ⟨us, by simpa using hsemi⟩
    rcases ih us.length (by simp [← hn]) us rfl with ⟨p, hp⟩ | ⟨hfaulty, h⟩
    · exact .inl ⟨p, .semi hp⟩
    · refine .inr ⟨by rwa [ofTokens], h.imp ?_ fun h rest => ?_⟩
      · rintro ⟨more, p, hp⟩
        exact ⟨more, p, .semi hp⟩
      · rw [List.cons_append, ofTokens, ofTokens, h]
  have hhead : ∀ rest, (ts ++ rest).head? ≠ some .semi := by
    cases ts <;> simp_all
  have hne : ∀ rest, ts ++ rest ≠ [] := by simp [hnil]
  cases settles_readStatement ts hnil with
  | whole s h => exact .inl ⟨[s], .last h⟩
  | done used tok us s heq h hread =>
      have hself := hread []
      rw [List.append_nil, List.append_nil] at hself
      by_cases htok : tok = .semi
      · subst htok
        have hlt : us.length < n := by
          rw [← hn, heq, List.length_append, List.length_cons]
          omega
        rcases ih us.length hlt us rfl with ⟨p, hp⟩ | ⟨⟨s', hmem, hs'⟩, hrest⟩
        · exact .inl ⟨s :: p, heq ▸ .more h hp⟩
        refine .inr ⟨⟨s', ?_, hs'⟩, hrest.imp ?_ fun hrest rest => ?_⟩
        · rw [ofTokens_more hsemi hself]
          exact List.mem_cons_of_mem _ hmem
        · rintro ⟨more, p, hp⟩
          refine ⟨more, s :: p, ?_⟩
          rw [heq, List.append_assoc]
          exact .more h hp
        · rw [ofTokens_more (hhead rest) (hread rest), ofTokens_more hsemi hself]
          exact congrArg (List.cons s) (hrest rest)
      · refine .inr ⟨⟨.fault (.unexpected tok), ?_, trivial⟩, .inr fun rest => ?_⟩
        · rw [ofTokens_other hsemi htok hself]
          simp
        · rw [ofTokens_other (hhead rest) htok (hread rest), ofTokens_other hsemi htok hself]
  | cut more s b h hb hread =>
      exact .inr ⟨⟨b, by simp [ofTokens_last hnil hsemi hread], hb⟩, .inl ⟨more, [s], .last h⟩⟩
  | fault b hb hread =>
      have hself := hread []
      rw [List.append_nil] at hself
      refine .inr ⟨⟨b, by simp [ofTokens_last hnil hsemi hself], hb⟩, .inr fun rest => ?_⟩
      rw [ofTokens_last (hne rest) (hhead rest) (hread rest), ofTokens_last hnil hsemi hself]

/-! ### Faults -/

theorem not_faulty_of_isExpr_and_isParts :
    (∀ ts e, IsExpr ts e → ¬ e.Faulty) ∧ (∀ ts es, IsParts ts es → ¬ Expr.AnyFaulty es) := by
  let P := fun ts e (_ : IsExpr ts e) => ¬ e.Faulty
  let Q := fun ts es (_ : IsParts ts es) => ¬ Expr.AnyFaulty es
  have one : ∀ {ts e} (h : IsExpr ts e), P ts e h → Q _ _ (.one h) := fun _ ih => by
    rintro (h | h)
    · exact ih h
    · exact h
  have more : ∀ {ts us e es} (h : IsExpr ts e) (h' : IsParts us es), P ts e h → Q us es h' →
      Q _ _ (.more h h') := fun _ _ ih ih' h => h.elim ih ih'
  exact ⟨fun ts e h => @IsExpr.rec P Q (fun _ => id) (fun _ => id) (fun _ ih => ih)
      (fun _ ih => ih) (fun _ => id) (fun _ => id) (fun _ _ _ _ ih => ih) one more ts e h,
    fun ts es h => @IsParts.rec P Q (fun _ => id) (fun _ => id) (fun _ ih => ih)
      (fun _ ih => ih) (fun _ => id) (fun _ => id) (fun _ _ _ _ ih => ih) one more ts es h⟩

theorem IsStatement.not_faulty {ts : List Token} {s : Statement} (h : IsStatement ts s) :
    ¬ s.Faulty := by
  obtain ⟨hexpr, hparts⟩ := not_faulty_of_isExpr_and_isParts
  cases h with
  | startEvery name he => exact hexpr _ _ he
  | stop he => exact hexpr _ _ he
  | print hes => exact hparts _ _ hes
  | value he _ => exact hexpr _ _ he
  | _ => exact id

theorem IsProgram.not_faulty {ts : List Token} {p : Program} (h : IsProgram ts p) :
    ¬ p.Faulty := by
  induction h with
  | nil => simp [Program.Faulty]
  | semi _ ih => exact ih
  | last hs => simpa [Program.Faulty] using hs.not_faulty
  | more hs _ ih =>
      rintro ⟨s, hmem, hfaulty⟩
      rcases List.mem_cons.mp hmem with rfl | hmem
      · exact hs.not_faulty hfaulty
      · exact ih ⟨s, hmem, hfaulty⟩

/-- **A list is read with a fault exactly if it does not follow the grammar.** -/
theorem faulty_iff (ts : List Token) : (ofTokens ts).Faulty ↔ ∀ p, ¬ IsProgram ts p := by
  refine ⟨fun hfaulty p hp => ?_, fun h => ?_⟩
  · rw [ofTokens_of_isProgram hp] at hfaulty
    exact hp.not_faulty hfaulty
  · rcases isProgram_or_faulty ts with ⟨p, hp⟩ | ⟨hfaulty, -⟩
    · exact absurd hp (h p)
    · exact hfaulty

theorem ofTokens_append_of_not_viable {pre : List Token}
    (h : ∀ more p, ¬ IsProgram (pre ++ more) p) (rest : List Token) :
    ofTokens (pre ++ rest) = ofTokens pre := by
  rcases isProgram_or_faulty pre with ⟨p, hp⟩ | ⟨-, ⟨more, p, hp⟩ | hrest⟩
  · exact absurd (by rwa [List.append_nil]) (h [] p)
  · exact absurd hp (h more p)
  · exact hrest rest

end BoardConsole.Script
