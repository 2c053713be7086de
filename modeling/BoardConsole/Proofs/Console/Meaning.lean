import BoardConsole.Console
import BoardConsole.Script.Program
import Mathlib

/-!
# Console — What a program means

A program is run statement by statement: `eval` gives an expression its value, arguments first and
from left to right, and `runProgram` stops at the first error. Macro bodies mean the programs that
they stand for, too (`callProgram`).

* `runTokens_eq`: running tokens in one pass is running the program that they stand for.
* `call_eq_callProgram`: so is calling a macro, at every depth.
-/

namespace BoardConsole

/-! ### One action after the other -/

section Bind
variable {ε σ α β : Type} {action : EStateM ε σ α} {k : α → EStateM ε σ β} {s s' : σ}

theorem bind_of_ok {a : α} (h : action s = .ok a s') : (action >>= k) s = k a s' := by
  show EStateM.bind action k s = _
  rw [EStateM.bind, h]

theorem bind_of_error {e : ε} (h : action s = .error e s') :
    (action >>= k) s = .error e s' := by
  show EStateM.bind action k s = _
  rw [EStateM.bind, h]

theorem exists_of_bind_eq_ok {b : β} (h : (action >>= k) s = .ok b s') :
    ∃ a t, action s = .ok a t ∧ k a t = .ok b s' := by
  cases hrun : action s with
  | ok a t => exact ⟨a, t, rfl, (bind_of_ok hrun).symm.trans h⟩
  | error e t => cases (bind_of_error hrun).symm.trans h

/-- The error comes from the first action, or else from the second. -/
theorem of_bind_eq_error {e : ε} (h : (action >>= k) s = .error e s') :
    action s = .error e s' ∨ ∃ a t, action s = .ok a t ∧ k a t = .error e s' := by
  cases hrun : action s with
  | ok a t => exact .inr ⟨a, t, rfl, (bind_of_ok hrun).symm.trans h⟩
  | error e' t =>
      cases (bind_of_error hrun).symm.trans h
      exact .inl rfl

end Bind

end BoardConsole

namespace BoardConsole.Console
open Script Program

/-! ### Errors -/

@[simp]
theorem map_throw {α β : Type} (f : α → β) (e : CommandError) :
    f <$> (throw e : Action α) = throw e := rfl

@[simp]
theorem throw_bind {α β : Type} (e : CommandError) (k : α → Action β) :
    (throw e : Action α) >>= k = throw e := rfl

section Meaning
variable (call : String → List Arg → Action Arg)

mutual

/-- The value of an expression. -/
def eval : Expr → Action Arg
  | .num n          => return .num n
  | .str text       => return .str text
  | .not e          => do
    let v ← eval e
    return .num (if v.toNum = 0 then 1 else 0)
  | .negate e       => do
    let v ← eval e
    return .num (-v.toNum)
  | .call name args => do
    let vs ← evalAll args
    call name vs
  | .fault fault    => throw (.malformed fault)

/-- The values of expressions, from left to right. -/
def evalAll : List Expr → Action (List Arg)
  | []      => return []
  | e :: es => do
    let v ← eval e
    let vs ← evalAll es
    return v :: vs

end

/-- Runs a statement. Only an expression has a value. -/
def runStatement : Statement → Action (Option Arg)
  | .define name body => do
    define name body
    return none
  | .remove name => do
    remove name
    return none
  | .removeAll => do
    removeAll
    return none
  | .list => do
    onHost Host.printListing
    return none
  | .usage => do
    printUsage
    return none
  | .tasks => do
    printTasks
    return none
  | .start name none => do
    start name 0
    return none
  | .start name (some e) => do
    let interval ← eval call e
    start name interval.toNum
    return none
  | .stop none => do
    stopAll
    return none
  | .stop (some e) => do
    let id ← eval call e
    stop id.toNum
    return none
  | .print parts => do
    let vs ← evalAll call parts
    printValues vs
    return none
  | .value e => do
    let v ← eval call e
    return some v
  | .fault fault => throw (.malformed fault)

/-- Runs statements in order; the value is that of the last expression among them, or `last`. -/
def runProgram (last : Arg) : Program → Action Arg
  | []      => return last
  | s :: ss => do
    let v ← runStatement call s
    runProgram (v.getD last) ss

theorem runProgram_append (last : Arg) (p q : Program) :
    runProgram call last (p ++ q) = (do
      let v ← runProgram call last p
      runProgram call v q) := by
  induction p generalizing last with
  | nil => simp [runProgram]
  | cons s ss ih => simp [runProgram, ih]

/-- Runs the program that a line stands for. -/
def runText (line : String) : Action Arg :=
  match tokenize line with
  | .error fault => throw (.malformed fault)
  | .ok ts       => runProgram call (.num 0) (ofTokens ts)

/-! ### One pass -/

theorem expression_eq_and_arguments_eq :
    (∀ ts, expression call ts
      = (fun v => (v, (readExpr ts).2)) <$> eval call (readExpr ts).1) ∧
    (∀ ts, arguments call ts
      = (fun vs => (vs, (readArgs ts).2)) <$> evalAll call (readArgs ts).1) := by
  apply readExpr.mutual_induct
  case case1 =>
      rw [expression, readExpr]
      simp [eval]
  case case2 =>
      intro us e rest h ih
      rw [expression, readExpr, ih, h]
      simp [eval]
  case case3 =>
      intro us e rest h ih
      rw [expression, readExpr, ih, h]
      simp [eval]
  case case4 =>
      intro n us
      rw [expression, readExpr]
      simp [eval]
  case case5 =>
      intro text us
      rw [expression, readExpr]
      simp [eval]
  case case6 =>
      intro name us
      rw [expression, readExpr]
      simp [eval, evalAll]
  case case7 =>
      intro name us hne args rest h ih
      rw [expression, readExpr, ih, h]
      · simp [eval]
      · exact hne
      · exact hne
  case case8 =>
      intro name us hne₁ hne₂
      rw [expression, readExpr]
      · simp [eval, evalAll]
      all_goals assumption
  case case9 =>
      intro tok us h₁ h₂ h₃ h₄ h₅ h₆ h₇
      rw [expression, readExpr]
      · simp [eval]
      all_goals assumption
  case case10 =>
      intro ts e us h args rest hargs he ihe ihargs
      rw [arguments, readArgs, ihe, he]
      simp [evalAll, ihargs, hargs]
  case case11 =>
      intro ts e us h he ihe
      rw [arguments, readArgs, ihe, he]
      simp [evalAll]
  case case12 =>
      intro ts e rest he hcomma hparen ihe
      rw [arguments, readArgs, ihe, he]
      simp [evalAll, eval]

theorem expressions_eq (ts : List Token) :
    expressions call ts
      = (fun vs => (vs, (readParts ts).2)) <$> evalAll call (readParts ts).1 := by
  have hexpr := (expression_eq_and_arguments_eq call).1
  induction ts using readParts.induct with
  | case1 ts e us h es rest hes he ih =>
      rw [expressions, readParts, hexpr, he]
      simp [evalAll, ih, hes]
  | case2 ts e rest hcomma he =>
      rw [expressions, readParts, hexpr, he]
      simp [evalAll]

/-- A piece of a statement, run in one pass, does what the statement read there does, has no value,
and leaves the same tokens. -/
def RunsAs {ts : List Token} (piece : Action (Rest ts)) (read : Statement × Rest ts) : Prop :=
  (fun rest => (none, rest)) <$> piece = (fun v => (v, read.2)) <$> runStatement call read.1

theorem runDefine_runsAs (ts : List Token) : RunsAs call (runDefine ts) (readDefine ts) := by
  unfold RunsAs
  unfold runDefine readDefine expectName
  cases readName ts with
  | error fault => simp [runStatement]
  | ok found =>
      obtain ⟨name, rest, h⟩ := found
      cases rest with
      | nil => simp [runStatement]
      | cons tok us => cases tok <;> simp [runStatement]

theorem runRemove_runsAs (ts : List Token) : RunsAs call (runRemove ts) (readRemove ts) := by
  unfold RunsAs
  cases ts with
  | nil => simp [runRemove, readRemove, expectName, readName, runStatement]
  | cons tok us =>
      cases tok <;> simp [runRemove, readRemove, expectName, readName, runStatement]

theorem runStart_runsAs (ts : List Token) : RunsAs call (runStart call ts) (readStart ts) := by
  unfold RunsAs
  have hexpr := (expression_eq_and_arguments_eq call).1
  unfold runStart readStart expectName
  cases readName ts with
  | error fault => simp [runStatement]
  | ok found =>
      obtain ⟨name, rest, h⟩ := found
      cases rest with
      | nil => simp [runStatement]
      | cons tok us => cases tok <;> simp [runStatement, hexpr]

theorem runStop_runsAs (ts : List Token) : RunsAs call (runStop call ts) (readStop ts) := by
  unfold RunsAs
  have hexpr := (expression_eq_and_arguments_eq call).1
  unfold runStop readStop
  split
  · simp [runStatement]
  · rw [hexpr]
    simp [runStatement]

theorem runPrint_runsAs (ts : List Token) : RunsAs call (runPrint call ts) (readPrint ts) := by
  unfold RunsAs
  unfold runPrint readPrint
  split
  · simp [runStatement, evalAll]
  · rw [expressions_eq]
    simp [runStatement]

theorem runKeyword_runsAs (keyword : String) (ts : List Token) :
    RunsAs call (runKeyword call keyword ts) (readKeyword keyword ts) := by
  unfold runKeyword readKeyword
  split
  · exact runDefine_runsAs call ts
  split
  · exact runRemove_runsAs call ts
  split
  · simp [RunsAs, runStatement]
  split
  · simp [RunsAs, runStatement]
  split
  · simp [RunsAs, runStatement]
  split
  · exact runStart_runsAs call ts
  split
  · exact runStop_runsAs call ts
  · exact runPrint_runsAs call ts

theorem statement_eq (ts : List Token) :
    statement call ts
      = (fun v => (v, (readStatement ts).2)) <$> runStatement call (readStatement ts).1 := by
  have hexpr := (expression_eq_and_arguments_eq call).1
  have hvalue : ∀ ts, (do let found ← expression call ts; return (some found.1, found.2)) =
      (fun v => (v, (readExpr ts).2)) <$> runStatement call (.value (readExpr ts).1) := by
    intro ts
    rw [hexpr]
    simp [runStatement]
  cases ts with
  | nil => exact hvalue []
  | cons tok us =>
      cases tok with
      | ident word =>
          by_cases hword : keywords.contains word = true
          · have hsuffix := List.suffix_cons (Token.ident word) us
            have hrun := congrArg (Functor.map fun found => (found.1, found.2.weaken hsuffix))
              (runKeyword_runsAs call word us)
            rw [statement, readStatement, if_pos hword, if_pos hword]
            simpa using hrun
          · rw [statement, readStatement, if_neg hword, if_neg hword]
            exact hvalue _
      | _ => exact hvalue _

/-- **Running tokens in one pass is running the program that they stand for.** -/
theorem runTokens_eq (last : Arg) (ts : List Token) :
    runTokens call last ts = runProgram call last (ofTokens ts) := by
  induction ts using ofTokens.induct generalizing last with
  | case1 => rw [runTokens, ofTokens, runProgram]
  | case2 us ih => rw [runTokens, ofTokens, ih]
  | case3 tok us hsemi s h hs =>
      rw [runTokens, ofTokens, statement_eq, hs]
      · simp [runProgram]
      all_goals exact hsemi
  | case4 tok us hsemi s vs h hs ih =>
      rw [runTokens, ofTokens, statement_eq, hs]
      · simp [runProgram, ih]
      all_goals exact hsemi
  | case5 tok us hsemi s other vs h hother hs =>
      rw [runTokens, ofTokens, statement_eq, hs]
      · simp [runProgram, runStatement]
      all_goals exact hsemi

theorem runLine_eq_runText (line : String) : runLine call line = runText call line := by
  unfold runLine runText
  cases tokenize line with
  | error fault => rfl
  | ok ts => exact runTokens_eq call (.num 0) ts

end Meaning

/-! ### Calls -/

/-- All that a call can come to: a function is called, the body of a stored macro is run, or the
call fails where it stands. -/
theorem invoke_eq (run : String → Action Arg) (name : String) (args : List Arg) (c : Console) :
    invoke run name args c =
      match c.functions.lookup? name with
      | some f => callFunction f args c
      | none =>
        match c.host.storage.body? name with
        | none => .error (.unknownName name) c
        | some body =>
          if args.isEmpty then run body c else .error (.malformed (.noArguments name)) c := by
  show (match c.functions.lookup? name with
    | some f => callFunction f args
    | none => _ : Action Arg) c = _
  cases c.functions.lookup? name with
  | some f => rfl
  | none =>
  cases c.host.storage.body? name with
  | none => rfl
  | some body => cases args <;> rfl

/-- Calls a function, or a stored macro as the program that its body stands for, where `levels` more
macro calls may be open at once. -/
def callProgram : Nat → String → List Arg → Action Arg
  | 0          => invoke fun _ => throw (.recursionLimit maxDepth)
  | levels + 1 => invoke fun body => nested (runText (callProgram levels) body)

theorem call_eq_callProgram (levels : Nat) : call levels = callProgram levels := by
  induction levels with
  | zero => rfl
  | succ levels ih =>
      funext name args
      simp only [call, callProgram, ih, runLine_eq_runText]

end BoardConsole.Console
