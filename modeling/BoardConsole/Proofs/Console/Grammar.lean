import BoardConsole.Functions.Standard
import BoardConsole.Proofs.Console.Meaning
import BoardConsole.Proofs.Script.Prefix

/-!
# Console — Lines and the grammar

Running a line as its tokens are read does what the grammar says.

* `execute_follows_grammar`: a line that follows the grammar does what its program means; any other
  line fails, and does nothing of what stands after the first token that no line following the
  grammar could have at its place.

A line that does not follow the grammar fails because its program has a fault in it, and each
expression of a program is run unless an error comes before it (`runProgram_fails`).
-/

namespace BoardConsole.Console
open Script Program

/-- An action that fails wherever it is run. -/
def Fails {α : Type} (action : Action α) : Prop := ∀ c, ∃ e c', action c = .error e c'

theorem fails_throw {α : Type} (e : CommandError) : Fails (throw e : Action α) :=
  fun c => ⟨e, c, rfl⟩

theorem Fails.bind {α β : Type} {action : Action α} (h : Fails action) (k : α → Action β) :
    Fails (action >>= k) := by
  intro c
  obtain ⟨e, c', hfail⟩ := h c
  exact ⟨e, c', bind_of_error hfail⟩

theorem fails_bind {α β : Type} (action : Action α) {k : α → Action β} (h : ∀ a, Fails (k a)) :
    Fails (action >>= k) := by
  intro c
  cases hrun : action c with
  | error e c' => exact ⟨e, c', bind_of_error hrun⟩
  | ok a c' =>
      obtain ⟨e, c'', hfail⟩ := h a c'
      exact ⟨e, c'', (bind_of_ok hrun).trans hfail⟩

section Faults
variable (call : String → List Arg → Action Arg)

mutual

theorem eval_fails : ∀ e : Expr, e.Faulty → Fails (eval call e)
  | .not e, h       => (eval_fails e h).bind _
  | .negate e, h    => (eval_fails e h).bind _
  | .call _ args, h => (evalAll_fails args h).bind _
  | .fault _, _     => fails_throw _

theorem evalAll_fails : ∀ es : List Expr, Expr.AnyFaulty es → Fails (evalAll call es)
  | e :: _, .inl h  => (eval_fails e h).bind _
  | _ :: es, .inr h => fails_bind _ fun _ => (evalAll_fails es h).bind _

end

theorem runStatement_fails : ∀ s : Statement, s.Faulty → Fails (runStatement call s)
  | .start _ (some e), h => (eval_fails call e h).bind _
  | .stop (some e), h    => (eval_fails call e h).bind _
  | .print parts, h      => (evalAll_fails call parts h).bind _
  | .value e, h          => (eval_fails call e h).bind _
  | .fault _, _          => fails_throw _

theorem runProgram_fails {p : Program} (h : p.Faulty) (last : Arg) :
    Fails (runProgram call last p) := by
  induction p generalizing last with
  | nil =>
      obtain ⟨s, hmem, -⟩ := h
      simp at hmem
  | cons _ ss ih =>
      obtain ⟨s', hmem, hs'⟩ := h
      rcases List.mem_cons.mp hmem with rfl | hmem
      · exact (runStatement_fails call s' hs').bind _
      · exact fails_bind _ fun v => ih ⟨s', hmem, hs'⟩ _

end Faults

theorem execute_eq {line : String} {ts : List Token} (h : tokenize line = .ok ts) (c : Console) :
    execute line c = runTokens (call (maxDepth - c.depth)) (.num 0) ts c := by
  show runLine (call (maxDepth - c.depth)) line c = _
  rw [runLine, h]

theorem execute_of_isProgram {line : String} {ts : List Token} {p : Program}
    (h : tokenize line = .ok ts) (hp : IsProgram ts p) (c : Console) :
    execute line c = runProgram (callProgram (maxDepth - c.depth)) (.num 0) p c := by
  rw [execute_eq h, runTokens_eq, ofTokens_of_isProgram hp, call_eq_callProgram]

/-- A name on its own is a call without arguments. -/
theorem runTokens_name (call : String → List Arg → Action Arg) {name : String}
    (h : name ∉ keywords) : runTokens call (.num 0) [.ident name] = call name [] := by
  have hp : IsProgram [.ident name] [.value (.call name [])] := by
    refine .last (.value (.name name) fun word us heq => ?_)
    cases heq
    exact h
  rw [runTokens_eq, ofTokens_of_isProgram hp]
  simp [runProgram, runStatement, eval, evalAll]

/-- **A line accepts exactly its grammar, and means what its program means.**  Where the tokens
follow the grammar, running the line has the effects, and the value or the error, of its statements
run from left to right.  Where they do not, the line fails.  Statements before the one that fails to
follow the grammar are run; and once no line beginning with `pre` follows it, the line does what
`pre` alone does, whatever stands after it. -/
theorem execute_follows_grammar {line : String} {ts : List Token} (h : tokenize line = .ok ts)
    (c : Console) :
    (∀ p, IsProgram ts p →
      execute line c = runProgram (callProgram (maxDepth - c.depth)) (.num 0) p c) ∧
    ((∀ p, ¬ IsProgram ts p) →
      (∃ e c', execute line c = .error e c') ∧
      (∀ us rest p, ts = us ++ .semi :: rest → IsProgram us p →
        execute line c = (do
          let v ← runProgram (callProgram (maxDepth - c.depth)) (.num 0) p
          runTokens (call (maxDepth - c.depth)) v rest) c) ∧
      ∀ pre rest, ts = pre ++ rest → (∀ more p, ¬ IsProgram (pre ++ more) p) →
        execute line c = runTokens (call (maxDepth - c.depth)) (.num 0) pre c) := by
  rw [execute_eq h]
  refine ⟨fun p hp => ?_, fun hno => ⟨?_, ?_, ?_⟩⟩
  · rw [runTokens_eq, ofTokens_of_isProgram hp, call_eq_callProgram]
  · rw [runTokens_eq]
    exact runProgram_fails _ ((faulty_iff ts).mpr hno) _ c
  · rintro us rest p rfl hp
    rw [runTokens_eq, ofTokens_append_semi hp, runProgram_append, call_eq_callProgram]
    simp only [runTokens_eq]
  · rintro pre rest rfl hpre
    rw [runTokens_eq, runTokens_eq, ofTokens_append_of_not_viable hpre]

/-- A console on a board with eight bytes of storage and a shell that does nothing. -/
def small : Console :=
  .new ⟨.start (.standing .zero), .low 4, .fresh 8, .toConsole (.fresh .endless), .empty, "", []⟩
    (.standardThrough fun volume _ => ⟨some 0, [], volume⟩) 2 .zero

/-- A stray number: what stands before it is run, and what stands after it is not. -/
theorem execute_follows_grammar_stray :
    tokenize "print 1; 2 3; rm *" = .ok [.ident "print", .num 1, .semi, .num 2, .num 3, .semi,
      .ident "rm", .star] ∧
    execute "print 1; 2 3; rm *" small
      = runTokens (call maxDepth) (.num 0) [.ident "print", .num 1, .semi, .num 2, .num 3]
          small := by
  have htokens : tokenize "print 1; 2 3; rm *" = .ok [.ident "print", .num 1, .semi, .num 2,
    .num 3, .semi, .ident "rm", .star] := by cbv
  have hstray : ∀ more p,
      ¬ IsProgram ([.ident "print", .num 1, .semi, .num 2, .num 3] ++ more) p := by
    intro more
    rw [← faulty_iff]
    refine ⟨.fault (.unexpected (.num 3)), ?_, trivial⟩
    simp [ofTokens, readStatement, readKeyword, readPrint, readParts, readExpr, keywords, atEnd,
      Rest.weaken]
  have hno : ∀ p, ¬ IsProgram [.ident "print", .num 1, .semi, .num 2, .num 3, .semi,
    .ident "rm", .star] p := hstray [.semi, .ident "rm", .star]
  exact ⟨htokens, ((execute_follows_grammar htokens small).2 hno).2.2 _
    [.semi, .ident "rm", .star] rfl hstray⟩

end BoardConsole.Console
