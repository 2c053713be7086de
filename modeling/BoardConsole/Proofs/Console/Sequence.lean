import BoardConsole.Proofs.Console.Depth
import BoardConsole.Proofs.Script.Progress

/-!
# Console — Two lines with a semicolon between them

Each piece of a line looks at one token behind it to know where it ends.  Where the line is over,
and where a semicolon follows instead, it ends alike, be it run to its end or broken off; and the
pieces around it go on alike from there (`Continues`).  What stands behind the semicolon is not
looked at.  Only where the line ends too early does the semicolon make a difference: it is what the
error names then (`Echoes`).

* `runTokens_continues`: tokens with a semicolon and others behind them are run as they are alone,
  and then the others are, unless an error comes before the semicolon.
* `runProgram_from`: the value that a program begins with is kept if it has no expression.
* `execute_sequence`: so a line is the sequence of its statements.
-/

namespace BoardConsole

namespace Script.Rest

/-- What is left, with a semicolon and more behind it. -/
def more {ts : List Token} (rest : Rest ts) (us : List Token) : Rest (ts ++ .semi :: us) :=
  ⟨rest.val ++ .semi :: us, by
    obtain ⟨front, heq⟩ := rest.property
    exact ⟨front, by rw [← List.append_assoc, heq]⟩⟩

end Script.Rest

/-- Whether it is an expression. -/
def Statement.isValue : Statement → Bool
  | .value _ => true
  | _        => false

/-- Whether there is an expression among the statements. -/
def Program.hasValue (p : Program) : Bool := p.any Statement.isValue

namespace Console
open Script Program

/-- The error that breaks a line off, and the one where a semicolon and more are put behind the
line.  It is the same, but that the semicolon is found where an expression or a name was missing. -/
inductive Echoes : CommandError → CommandError → Prop where
  | same (e : CommandError) : Echoes e e
  | expression : Echoes (.malformed .expressionExpected) (.malformed (.unexpected .semi))
  | name : Echoes (.malformed (.nameExpected none)) (.malformed (.nameExpected (some .semi)))

/-- What `x` runs, `y us` runs with a semicolon and `us` behind it: it does what `x` does, and then
`k us`.  Where `x` fails, so does `y us`, and then `us` makes no difference. -/
structure Continues {α : Type} {β : List Token → Type} (k : ∀ us, α → Action (β us)) (x : Action α)
    (y : ∀ us, Action (β us)) : Prop where
  ok : ∀ {c a c'}, x c = .ok a c' → ∀ us, y us c = k us a c'
  error : ∀ {c e c'}, x c = .error e c' → ∃ e', Echoes e e' ∧ ∀ us, y us c = .error e' c'

namespace Continues
variable {α : Type} {β γ : List Token → Type} {k : ∀ us, α → Action (β us)}

theorem pure (a : α) : Continues k (Pure.pure a) (fun us => k us a) where
  ok h us := by cases h; rfl
  error h := by cases h

theorem throw {e e' : CommandError} (h : Echoes e e') :
    Continues k (MonadExcept.throw e) (fun _ => MonadExcept.throw e') where
  ok h := by cases h
  error h' := by
    cases h'
    exact ⟨e', h, fun _ => rfl⟩

/-- A piece that leaves something for others goes before one that goes on with `g`. -/
theorem bind {δ : Type} {f : ∀ us, α → β us} {x : Action α} {y : ∀ us, Action (β us)}
    {g : ∀ us, δ → Action (γ us)} {m : α → Action δ} {l : ∀ us, β us → Action (γ us)}
    (hx : Continues (fun us a => Pure.pure (f us a)) x y)
    (hm : ∀ a, Continues g (m a) fun us => l us (f us a)) :
    Continues g (x >>= m) fun us => y us >>= l us where
  ok h us := by
    obtain ⟨a, d, hrun, hk⟩ := exists_of_bind_eq_ok h
    rw [bind_of_ok (hx.ok hrun us)]
    exact (hm a).ok hk us
  error h := by
    rcases of_bind_eq_error h with hrun | ⟨a, d, hrun, hk⟩
    · obtain ⟨e', he, hy⟩ := hx.error hrun
      exact ⟨e', he, fun us => bind_of_error (hy us)⟩
    · obtain ⟨e', he, hl⟩ := (hm a).error hk
      exact ⟨e', he, fun us => (bind_of_ok (hx.ok hrun us)).trans (hl us)⟩

/-- What reads no tokens does not see them. -/
theorem refl (x : Action α) : Continues (fun _ a => Pure.pure a) x fun _ => x where
  ok h _ := h
  error h := ⟨_, .same _, fun _ => h⟩

/-- It goes before what is left. -/
theorem before {δ : Type} (x : Action δ) (m : δ → α) :
    Continues k (x >>= fun a => Pure.pure (m a)) fun us => x >>= fun a => k us (m a) :=
  (refl x).bind fun _ => .pure _

end Continues

/-! ### Pieces of a line -/

/-- The same is found, and what is left has a semicolon and more behind it. -/
def withMore {α : Type} {ts : List Token} (us : List Token) (found : α × Rest ts) :
    Action (α × Rest (ts ++ .semi :: us)) :=
  pure (found.1, found.2.more us)

section Pieces
variable (call : String → List Arg → Action Arg)

theorem expression_call (name : String) {ts : List Token} (h : ts.head? ≠ some .rparen) :
    expression call (.ident name :: .lparen :: ts) = do
      let (vs, rest) ← arguments call ts
      let v ← call name vs
      return (v, rest.weaken (suffix_cons_cons _ _ ts)) := by
  rw [expression]
  rintro us rfl
  exact h rfl

theorem expression_name (name : String) {ts : List Token} (h : ts.head? ≠ some .lparen) :
    expression call (.ident name :: ts) = do
      let v ← call name []
      return (v, ⟨ts, List.suffix_cons _ ts⟩) := by
  rw [expression]
  · rintro us rfl
    exact h rfl
  · rintro us rfl
    exact h rfl

/-- A semicolon behind tokens is not the first of them. -/
theorem head?_append_semi {ts : List Token} {tok : Token} (htok : tok ≠ .semi)
    (h : ts.head? ≠ some tok) (us : List Token) : (ts ++ .semi :: us).head? ≠ some tok := by
  rcases ts with _ | ⟨first, ts⟩
  · simpa using htok.symm
  · exact h

/-- A token that begins no expression is refused before anything behind it is looked at. -/
theorem continues_stray {tok : Token} (ts : List Token)
    (h : ∀ ts, expression call (tok :: ts) = throw (.malformed (.unexpected tok))) :
    Continues withMore (expression call (tok :: ts)) fun us =>
      expression call (tok :: ts ++ .semi :: us) := by
  show Continues _ _ fun us => expression call (tok :: (ts ++ .semi :: us))
  simp only [h]
  exact .throw (.same _)

/-- A name has arguments where a parenthesis follows it, and neither a semicolon nor the end of the
line is one. -/
theorem continues_name (name : String) (ts : List Token)
    (hargs : ∀ us, ts = .lparen :: us → Continues withMore (arguments call us) fun vs =>
      arguments call (us ++ .semi :: vs)) :
    Continues withMore (expression call (.ident name :: ts)) fun us =>
      expression call (.ident name :: ts ++ .semi :: us) := by
  by_cases hparen : ts.head? = some .lparen
  · obtain ⟨us, rfl⟩ := List.head?_eq_some_iff.mp hparen
    -- nothing but the token behind the parenthesis tells that there are no arguments
    by_cases hclose : us.head? = some .rparen
    · obtain ⟨vs, rfl⟩ := List.head?_eq_some_iff.mp hclose
      show Continues _ _ fun us =>
        expression call (.ident name :: .lparen :: .rparen :: (vs ++ .semi :: us))
      simp only [expression]
      exact .before (call name []) _
    · have hclose' := head?_append_semi (by simp) hclose
      show Continues _ _ fun vs => expression call (.ident name :: .lparen :: (us ++ .semi :: vs))
      simp only [expression_call call name hclose, expression_call call name (hclose' _)]
      exact (hargs us rfl).bind fun found => .before (call name found.1) _
  · have hparen' := head?_append_semi (by simp) hparen
    show Continues _ _ fun us => expression call (.ident name :: (ts ++ .semi :: us))
    simp only [expression_name call name hparen, expression_name call name (hparen' _)]
    exact .before (call name []) _

theorem continues_arguments {ts : List Token}
    (hexpr : Continues withMore (expression call ts) fun us => expression call (ts ++ .semi :: us))
    (hargs : ∀ us, us.length < ts.length → Continues withMore (arguments call us) fun vs =>
      arguments call (us ++ .semi :: vs)) :
    Continues withMore (arguments call ts) fun us => arguments call (ts ++ .semi :: us) := by
  unfold arguments
  refine hexpr.bind fun found => ?_
  obtain ⟨v, rest, hsuffix⟩ := found
  rcases rest with _ | ⟨tok, us⟩
  · exact .throw (.same _)
  · have hlt := length_lt_of_suffix hsuffix
    cases tok with
    | comma => exact (hargs us hlt).bind fun _ => .pure _
    | rparen => exact .pure _
    | _ => exact .throw (.same _)

mutual

/-- **An expression is run up to a semicolon as it is up to the end of the line.** -/
theorem expression_continues (ts : List Token) :
    Continues withMore (expression call ts) fun us => expression call (ts ++ .semi :: us) := by
  match ts with
  | [] =>
      show Continues _ (expression call []) fun us => expression call (.semi :: us)
      simp only [expression]
      exact .throw .expression
  | .bang :: ts =>
      show Continues _ _ fun us => expression call (.bang :: (ts ++ .semi :: us))
      simp only [expression]
      exact (expression_continues ts).bind fun _ => .pure _
  | .minus :: ts =>
      show Continues _ _ fun us => expression call (.minus :: (ts ++ .semi :: us))
      simp only [expression]
      exact (expression_continues ts).bind fun _ => .pure _
  | .num n :: ts =>
      show Continues _ _ fun us => expression call (.num n :: (ts ++ .semi :: us))
      simp only [expression]
      exact .pure _
  | .str text :: ts =>
      show Continues _ _ fun us => expression call (.str text :: (ts ++ .semi :: us))
      simp only [expression]
      exact .pure _
  | .ident name :: ts => exact continues_name call name ts fun us _ => arguments_continues us
  | .body text :: ts | .lparen :: ts | .rparen :: ts | .comma :: ts | .semi :: ts | .star :: ts =>
      exact continues_stray call ts fun us => by rw [expression] <;> nofun
termination_by (ts.length, 0)

theorem arguments_continues (ts : List Token) :
    Continues withMore (arguments call ts) fun us => arguments call (ts ++ .semi :: us) :=
  continues_arguments call (expression_continues ts) fun us _ => arguments_continues us
termination_by (ts.length, 1)

end

theorem expressions_continues (ts : List Token) :
    Continues withMore (expressions call ts) fun us => expressions call (ts ++ .semi :: us) := by
  unfold expressions
  refine (expression_continues call ts).bind fun found => ?_
  obtain ⟨v, rest, hsuffix⟩ := found
  rcases rest with _ | ⟨tok, us⟩
  · exact .pure _
  · have hlt := length_lt_of_suffix hsuffix
    cases tok with
    | comma => exact (expressions_continues us).bind fun _ => .pure _
    | _ => exact .pure _
termination_by ts.length

/-! ### Statements -/

/-- What is left has a semicolon and more behind it. -/
def leavesMore {ts : List Token} (us : List Token) (rest : Rest ts) :
    Action (Rest (ts ++ .semi :: us)) :=
  pure (rest.more us)

theorem expectName_continues (ts : List Token) :
    Continues withMore (expectName ts) fun us => expectName (ts ++ .semi :: us) := by
  rcases ts with _ | ⟨tok, ts⟩
  · exact .throw .name
  · cases tok with
    | ident name => exact .pure _
    | _ => exact .throw (.same _)

theorem runDefine_continues (ts : List Token) :
    Continues leavesMore (runDefine ts) fun us => runDefine (ts ++ .semi :: us) := by
  refine (expectName_continues ts).bind fun found => ?_
  obtain ⟨name, rest, hsuffix⟩ := found
  rcases rest with _ | ⟨tok, us⟩
  · exact .throw (.same _)
  · cases tok with
    | body text => exact .before (define name text) _
    | _ => exact .throw (.same _)

theorem runRemove_continues (ts : List Token) :
    Continues leavesMore (runRemove ts) fun us => runRemove (ts ++ .semi :: us) := by
  rcases ts with _ | ⟨tok, ts⟩
  · exact .throw .name
  · cases tok with
    | star => exact .before removeAll _
    | _ =>
        exact (expectName_continues (_ :: ts)).bind fun found => .before (remove found.1) _

theorem runStart_continues (ts : List Token) :
    Continues leavesMore (runStart call ts) fun us => runStart call (ts ++ .semi :: us) := by
  refine (expectName_continues ts).bind fun found => ?_
  obtain ⟨name, rest, hsuffix⟩ := found
  rcases rest with _ | ⟨tok, us⟩
  · exact .before (start name 0) _
  · cases tok with
    | comma =>
        exact (expression_continues call us).bind fun found => .before (start name found.1.toNum) _
    | _ => exact .before (start name 0) _

theorem atEnd_append_semi (ts us : List Token) : atEnd (ts ++ .semi :: us) = atEnd ts := by
  rcases ts with _ | ⟨tok, ts⟩
  · rfl
  · cases tok <;> rfl

theorem runStop_continues (ts : List Token) :
    Continues leavesMore (runStop call ts) fun us => runStop call (ts ++ .semi :: us) := by
  unfold runStop
  simp only [atEnd_append_semi]
  split
  · exact .before stopAll _
  · exact (expression_continues call ts).bind fun found => .before (stop found.1.toNum) _

theorem runPrint_continues (ts : List Token) :
    Continues leavesMore (runPrint call ts) fun us => runPrint call (ts ++ .semi :: us) := by
  unfold runPrint
  simp only [atEnd_append_semi]
  split
  · exact .before (printValues []) _
  · exact (expressions_continues call ts).bind fun found => .before (printValues found.1) _

theorem runKeyword_continues (keyword : String) (ts : List Token) :
    Continues leavesMore (runKeyword call keyword ts) fun us =>
      runKeyword call keyword (ts ++ .semi :: us) := by
  unfold runKeyword
  split
  · exact runDefine_continues ts
  split
  · exact runRemove_continues ts
  split
  · exact .before (onHost Host.printListing) _
  split
  · exact .before printUsage _
  split
  · exact .before printTasks _
  split
  · exact runStart_continues call ts
  split
  · exact runStop_continues call ts
  · exact runPrint_continues call ts

theorem statement_continues (ts : List Token) :
    Continues withMore (statement call ts) fun us => statement call (ts ++ .semi :: us) := by
  have hvalue : ∀ ts, Continues withMore
      (do let found ← expression call ts; return (some found.1, found.2)) fun us =>
      (do let found ← expression call (ts ++ .semi :: us); return (some found.1, found.2)) :=
    fun ts => (expression_continues call ts).bind fun _ => .pure _
  rcases ts with _ | ⟨tok, ts⟩
  · exact hvalue []
  · cases tok with
    | ident word =>
        show Continues _ _ fun us => statement call (.ident word :: (ts ++ .semi :: us))
        by_cases hword : keywords.contains word = true
        · simp only [statement, if_pos hword]
          exact (runKeyword_continues call word ts).bind fun _ => .pure _
        · simp only [statement, if_neg hword]
          exact hvalue (.ident word :: ts)
    | _ => exact hvalue (_ :: ts)

/-- **Tokens with a semicolon and others behind them** are run as they are alone, and then the
others are, unless an error comes before the semicolon. -/
theorem runTokens_continues (last : Arg) (ts : List Token) :
    Continues (fun us v => runTokens call v us) (runTokens call last ts) fun us =>
      runTokens call last (ts ++ .semi :: us) := by
  -- by induction on how many tokens there are: a statement that is run leaves fewer
  rcases ts with _ | ⟨tok, ts⟩
  · show Continues _ _ fun us => runTokens call last (.semi :: us)
    simp only [runTokens]
    exact .pure last
  by_cases htok : tok = .semi
  · subst htok
    show Continues _ _ fun us => runTokens call last (.semi :: (ts ++ .semi :: us))
    simp only [runTokens]
    exact runTokens_continues last ts
  · show Continues _ _ fun us => runTokens call last (tok :: (ts ++ .semi :: us))
    simp only [runTokens]
    refine (statement_continues call (tok :: ts)).bind fun found => ?_
    obtain ⟨v, rest, hsuffix⟩ := found
    rcases rest with _ | ⟨tok, us⟩
    · exact .pure (v.getD last)
    · have hle : us.length ≤ ts.length := Nat.le_of_lt_succ (length_lt_of_suffix hsuffix)
      cases tok with
      | semi => exact runTokens_continues (v.getD last) us
      | _ => exact .throw (.same _)
termination_by ts.length

/-! ### The value of a line -/

/-- Every value that an action can end with has a property. -/
def Gives {α : Type} (P : α → Prop) (action : Action α) : Prop :=
  ∀ c a c', action c = .ok a c' → P a

theorem Gives.pure {α : Type} {P : α → Prop} {a : α} (h : P a) :
    Gives P (Pure.pure a : Action α) := by
  intro c b c' heq
  cases heq
  exact h

theorem Gives.throw {α : Type} {P : α → Prop} (e : CommandError) :
    Gives P (MonadExcept.throw e : Action α) := by
  intro c b c' heq
  cases heq

theorem Gives.bind {α β : Type} {P : β → Prop} {action : Action α} {k : α → Action β}
    (h : ∀ a, Gives P (k a)) : Gives P (action >>= k) := by
  intro c b c' heq
  obtain ⟨a, d, -, hk⟩ := exists_of_bind_eq_ok heq
  exact h a d b c' hk

/-- Only an expression has a value. -/
theorem runStatement_gives (s : Statement) :
    Gives (fun v => v.isSome = s.isValue) (runStatement call s) := by
  cases s with
  | value e => exact .bind fun _ => .pure rfl
  | start name interval =>
      cases interval with
      | none => exact .bind fun _ => .pure rfl
      | some e => exact .bind fun _ => .bind fun _ => .pure rfl
  | stop id =>
      cases id with
      | none => exact .bind fun _ => .pure rfl
      | some e => exact .bind fun _ => .bind fun _ => .pure rfl
  | print parts => exact .bind fun _ => .bind fun _ => .pure rfl
  | fault fault => exact .throw _
  | _ => exact .bind fun _ => .pure rfl

/-- **The value that a program begins with** is its value in the end if there is no expression among
its statements; otherwise it makes no difference. -/
theorem runProgram_from (p : Program) (first last : Arg) (c : Console) :
    runProgram call last p c =
      match runProgram call first p c with
      | .ok w d    => .ok (if p.hasValue then w else last) d
      | .error e d => .error e d := by
  induction p generalizing first last c with
  | nil => rfl
  | cons s ss ih =>
      have hvalues : Program.hasValue (s :: ss) = (s.isValue || Program.hasValue ss) := rfl
      rw [runProgram, runProgram]
      cases hrun : runStatement call s c with
      | error e d => rw [bind_of_error hrun, bind_of_error hrun]
      | ok v d =>
          have hvalue := runStatement_gives call s c v d hrun
          rw [bind_of_ok hrun, bind_of_ok hrun, hvalues, ← hvalue]
          cases v with
          | none => exact ih first last d
          | some v =>
              simp only [Option.getD_some, Option.isSome_some, Bool.true_or, if_true]
              cases runProgram call v ss d <;> rfl

/-- Tokens that are run to the end follow the grammar. -/
theorem exists_isProgram_of_runTokens {ts : List Token} {last v : Arg} {c c' : Console}
    (h : runTokens call last ts c = .ok v c') : ∃ p, IsProgram ts p := by
  by_contra hno
  have hfaulty := (faulty_iff ts).mpr (not_exists.mp hno)
  obtain ⟨e, d, hfail⟩ := runProgram_fails call hfaulty last c
  rw [runTokens_eq, hfail] at h
  cases h

end Pieces

/-! ### Whole lines -/

theorem tokenize_append_semi {a : String} {ts : List Token} (h : tokenize a = .ok ts) (b : String) :
    tokenize (a ++ ";" ++ b) = (ts ++ .semi :: ·) <$> tokenize b := by
  have hchars : (a ++ ";" ++ b).toList = a.toList ++ ';' :: b.toList := by simp
  rw [tokenize, hchars]
  exact Lexer.tokens_append_semi h b.toList

/-- **A line is the sequence of its statements.**  Let `a` be a line that is read.  If `b` is not,
nothing is done.  If `a` ends well, what is done next is what `b` does from there, its error
included; the value is that of `b` if there is an expression among its statements, and otherwise
that of `a`.  If `a` fails, all is as it is without `b`, whatever `b` is, but for what the error
finds in place of a missing token. -/
theorem execute_sequence {a : String} {ts : List Token} (h : tokenize a = .ok ts) (c : Console) :
    (∀ b fault, tokenize b = .error fault →
      execute (a ++ ";" ++ b) c = .error (.malformed fault) c) ∧
    (∀ v d, execute a c = .ok v d → ∀ b us, tokenize b = .ok us →
      (∀ e d', execute b d = .error e d' → execute (a ++ ";" ++ b) c = .error e d') ∧
      ∀ w d', execute b d = .ok w d' → ∃ p, IsProgram us p ∧
        execute (a ++ ";" ++ b) c = .ok (if p.hasValue then w else v) d') ∧
    ∀ e d, execute a c = .error e d → ∃ e', Echoes e e' ∧ ∀ b us, tokenize b = .ok us →
      execute (a ++ ";" ++ b) c = .error e' d := by
  have hrun := runTokens_continues (call (maxDepth - c.depth)) (.num 0) ts
  have hread : ∀ b us, tokenize b = .ok us →
      tokenize (a ++ ";" ++ b) = .ok (ts ++ .semi :: us) := fun b us hb => by
    rw [tokenize_append_semi h, hb]
    rfl
  refine ⟨fun b fault hb => ?_, fun v d ha b us hb => ?_, fun e d ha => ?_⟩
  · have hline : tokenize (a ++ ";" ++ b) = .error fault := by
      rw [tokenize_append_semi h, hb]
      rfl
    show runLine (call (maxDepth - c.depth)) (a ++ ";" ++ b) c = _
    rw [runLine, hline]
    rfl
  · have hdepth : d.depth = c.depth := by
      have hend := execute_atDepth a c.depth c rfl
      rwa [ha] at hend
    rw [execute_eq h] at ha
    have hline : execute (a ++ ";" ++ b) c = runTokens (call (maxDepth - c.depth)) v us d := by
      rw [execute_eq (hread b us hb)]
      exact hrun.ok ha us
    have hfrom := runProgram_from (call (maxDepth - c.depth)) (ofTokens us) (.num 0) v d
    rw [← runTokens_eq, ← runTokens_eq, ← hline] at hfrom
    rw [execute_eq hb, hdepth]
    refine ⟨fun e d' hfail => by rw [hfrom, hfail], fun w d' hok => ?_⟩
    obtain ⟨p, hp⟩ := exists_isProgram_of_runTokens _ hok
    refine ⟨p, hp, ?_⟩
    rw [hfrom, hok, ofTokens_of_isProgram hp]
  · rw [execute_eq h] at ha
    obtain ⟨e', he, hfail⟩ := hrun.error ha
    refine ⟨e', he, fun b us hb => ?_⟩
    rw [execute_eq (hread b us hb)]
    exact hfail us

/-- A line without an expression keeps the value of the one before it, and nothing is removed
behind one that fails. -/
theorem execute_sequence_small :
    tokenize "3" = .ok [.num 3] ∧ tokenize "!" = .ok [.bang] ∧
      (∃ d, execute "print 4" small = .ok (.num 0) d ∧
        execute ("3" ++ ";" ++ "print 4") small = .ok (.num 3) d) ∧
      ∃ e, Echoes (.malformed .expressionExpected) e ∧
        execute ("!" ++ ";" ++ "rm *") small = .error e small := by
  have hthree : tokenize "3" = .ok [.num 3] := by cbv
  have hbang : tokenize "!" = .ok [.bang] := by cbv
  have hprint : tokenize "print 4" = .ok [.ident "print", .num 4] := by cbv
  have hremove : tokenize "rm *" = .ok [.ident "rm", .star] := by cbv
  have hprogram : IsProgram [.ident "print", .num 4] [.print [.num 4]] :=
    .last (.print (.one (.num 4)))
  have hvalue : execute "3" small = .ok (.num 3) small := by
    rw [execute_eq hthree, runTokens_eq]
    cbv
  have hfail : execute "!" small = .error (.malformed .expressionExpected) small := by
    rw [execute_eq hbang, runTokens_eq]
    cbv
  have hprinted : execute "print 4" small
      = .ok (.num 0) { small with host := small.host.emitLine "4" } := by
    rw [execute_of_isProgram hprint hprogram]
    rfl
  obtain ⟨-, hafter⟩ := (execute_sequence hthree small).2.1 _ _ hvalue _ _ hprint
  obtain ⟨p, hp, hkept⟩ := hafter _ _ hprinted
  cases hp.unique hprogram
  obtain ⟨e, he, hboth⟩ := (execute_sequence hbang small).2.2 _ _ hfail
  exact ⟨hthree, hbang, ⟨_, hprinted, hkept⟩, e, he, hboth _ _ hremove⟩

end Console

end BoardConsole
