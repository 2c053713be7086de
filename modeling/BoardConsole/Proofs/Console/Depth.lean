import BoardConsole.Proofs.Console.Interval

/-!
# Console — Nested calls

A console counts the macro calls that are open, and refuses one more when there are `maxDepth`.  The
bodies are texts that the storage holds when they are called, and what is running can store others;
so nothing but this count bounds the recursion.

* `callWithin`: the recursion of calls as it goes by the console's own count, followed for some
  calls inside one another; what would be done beyond them is left open.
* `call_atDepth`, `execute_atDepth`: a call and a line leave the count as they find it.
* `callWithin_agrees`: beyond as many calls as the count leaves room for, nothing is ever done.
* `execute_ends`: so every line ends, and every command and every turn of a pass finds no call open.
-/

namespace BoardConsole

/-- Two actions do the same on the states that have a property. -/
def Agrees {ε σ α : Type} (I : σ → Prop) (a b : EStateM ε σ α) : Prop := ∀ s, I s → a s = b s

section Agrees
variable {ε σ α β : Type} {I : σ → Prop} {a b : EStateM ε σ α}

theorem Agrees.refl (a : EStateM ε σ α) : Agrees I a a := fun _ _ => rfl

theorem Agrees.trans {c : EStateM ε σ α} (h : Agrees I a b) (h' : Agrees I b c) : Agrees I a c :=
  fun s hs => (h s hs).trans (h' s hs)

/-- Two actions that agree go on alike, if what comes next agrees, too, where they end. -/
theorem Agrees.bind {k l : α → EStateM ε σ β} (h : Agrees I a b) (hb : Keeps I b)
    (hk : ∀ x, Agrees I (k x) (l x)) : Agrees I (a >>= k) (b >>= l) := by
  intro s hs
  have hend := hb s hs
  have hsame := h s hs
  cases hrun : b s with
  | ok x s' =>
      rw [hrun] at hend hsame
      rw [bind_of_ok hsame, bind_of_ok hrun]
      exact hk x s' hend
  | error e s' =>
      rw [hrun] at hsame
      rw [bind_of_error hsame, bind_of_error hrun]

end Agrees

namespace Console
open Script Program Lexer

/-! ### The calls that are open -/

/-- So many macro calls are open. -/
def AtDepth (depth : Nat) (c : Console) : Prop := c.depth = depth

theorem untouched_atDepth : Untouched AtDepth where
  effects _ _ h := h
  opens h       := congrArg (· + 1) h
  closes h      := Nat.sub_eq_of_eq_add h

theorem call_atDepth (levels d : Nat) (name : String) (args : List Arg) :
    Keeps (AtDepth d) (call levels name args) :=
  untouched_atDepth.call levels d name args

/-- **A line leaves as many calls open as it finds**, whether it fails or not. -/
theorem execute_atDepth (line : String) (d : Nat) : Keeps (AtDepth d) (execute line) :=
  untouched_atDepth.execute line d

/-! ### Calls that go by the count -/

/-- Runs the body of a macro, unless too many calls are open. -/
def guarded (run : String → Action Arg) (body : String) : Action Arg := fun c =>
  if maxDepth ≤ c.depth then .error (.recursionLimit maxDepth) c else run body c

/-- Calls a function or a stored macro, where nothing but the console's own count bounds the calls
that are open.  Bodies are run `n` calls deep; a body deeper than that is handed to `beyond`. -/
def callWithin (beyond : String → Action Arg) : Nat → String → List Arg → Action Arg
  | 0     => invoke (guarded beyond)
  | n + 1 => invoke (guarded fun body => nested (runLine (callWithin beyond n) body))

section Agreement
variable {I : Console → Prop} {f g : String → List Arg → Action Arg}

mutual

theorem eval_agrees (hcall : ∀ name args, Agrees I (f name args) (g name args))
    (hkeeps : ∀ name args, Keeps I (g name args)) : ∀ e : Expr, Agrees I (eval f e) (eval g e)
  | .num _       => .refl _
  | .str _       => .refl _
  | .not e       => (eval_agrees hcall hkeeps e).bind (eval_keeps hkeeps e) fun _ => .refl _
  | .negate e    => (eval_agrees hcall hkeeps e).bind (eval_keeps hkeeps e) fun _ => .refl _
  | .call _ args =>
    (evalAll_agrees hcall hkeeps args).bind (evalAll_keeps hkeeps args) fun _ => hcall _ _
  | .fault _     => .refl _

theorem evalAll_agrees (hcall : ∀ name args, Agrees I (f name args) (g name args))
    (hkeeps : ∀ name args, Keeps I (g name args)) :
    ∀ es : List Expr, Agrees I (evalAll f es) (evalAll g es)
  | []      => .refl _
  | e :: es =>
    (eval_agrees hcall hkeeps e).bind (eval_keeps hkeeps e) fun _ =>
      (evalAll_agrees hcall hkeeps es).bind (evalAll_keeps hkeeps es) fun _ => .refl _

end

theorem runStatement_agrees (hcall : ∀ name args, Agrees I (f name args) (g name args))
    (hkeeps : ∀ name args, Keeps I (g name args)) (s : Statement) :
    Agrees I (runStatement f s) (runStatement g s) := by
  cases s with
  | start name interval =>
      cases interval with
      | none => exact .refl _
      | some e => exact (eval_agrees hcall hkeeps e).bind (eval_keeps hkeeps e) fun _ => .refl _
  | stop id =>
      cases id with
      | none => exact .refl _
      | some e => exact (eval_agrees hcall hkeeps e).bind (eval_keeps hkeeps e) fun _ => .refl _
  | print parts =>
      exact (evalAll_agrees hcall hkeeps parts).bind (evalAll_keeps hkeeps parts) fun _ => .refl _
  | value e => exact (eval_agrees hcall hkeeps e).bind (eval_keeps hkeeps e) fun _ => .refl _
  | _ => exact .refl _

theorem runProgram_agrees (effects : EffectsKeep I fun _ _ => True)
    (hcall : ∀ name args, Agrees I (f name args) (g name args))
    (hkeeps : ∀ name args, Keeps I (g name args)) (p : Program) (last : Arg) :
    Agrees I (runProgram f last p) (runProgram g last p) := by
  induction p generalizing last with
  | nil => exact .refl _
  | cons s ss ih =>
      exact (runStatement_agrees hcall hkeeps s).bind
        (runStatement_keeps effects hkeeps s fun _ _ _ => trivial) fun v => ih _

theorem runLine_agrees (effects : EffectsKeep I fun _ _ => True)
    (hcall : ∀ name args, Agrees I (f name args) (g name args))
    (hkeeps : ∀ name args, Keeps I (g name args)) (line : String) :
    Agrees I (runLine f line) (runLine g line) := by
  unfold runLine
  cases tokenize line with
  | error fault => exact .refl _
  | ok ts =>
      simp only [runTokens_eq]
      exact runProgram_agrees effects hcall hkeeps _ _

theorem invoke_agrees {run run' : String → Action Arg}
    (hrun : ∀ body, Agrees I (run body) (run' body)) (name : String) (args : List Arg) :
    Agrees I (invoke run name args) (invoke run' name args) := by
  intro c hc
  rw [invoke_eq, invoke_eq]
  cases c.functions.lookup? name with
  | some f => rfl
  | none =>
  cases c.host.storage.body? name with
  | none => rfl
  | some body => simp only [hrun body c hc]

end Agreement

/-- Where there is room for one more call, the guard lets it pass. -/
theorem guarded_agrees {d : Nat} (h : d < maxDepth) (run : String → Action Arg) (body : String) :
    Agrees (AtDepth d) (guarded run body) (run body) := by
  rintro c rfl
  exact if_neg (Nat.not_le.mpr h)

theorem nested_agrees {α : Type} {d : Nat} {a b : Action α} (h : Agrees (AtDepth (d + 1)) a b) :
    Agrees (AtDepth d) (nested a) (nested b) := by
  rintro c rfl
  have heq := h { c with depth := c.depth + 1 } rfl
  unfold nested
  rw [heq]

/-- Where there is none, it does not matter what the guard keeps out. -/
theorem guarded_agrees_full (run : String → Action Arg) (name : String) (args : List Arg) :
    Agrees (AtDepth maxDepth) (invoke (guarded run) name args) (call 0 name args) :=
  invoke_agrees (fun _ _ hc => if_pos (Nat.le_of_eq hc.symm)) name args

/-- **Beyond as many calls as the count leaves room for, nothing is ever done.** -/
theorem callWithin_agrees (beyond : String → Action Arg) {n d : Nat} (hd : d ≤ maxDepth)
    (hn : maxDepth - d ≤ n) (name : String) (args : List Arg) :
    Agrees (AtDepth d) (callWithin beyond n name args) (call (maxDepth - d) name args) := by
  induction n generalizing d name args with
  | zero =>
      obtain rfl : d = maxDepth := by omega
      exact guarded_agrees_full beyond name args
  | succ n ih =>
      rcases Nat.lt_or_eq_of_le hd with hroom | rfl
      · have hlevels : maxDepth - d = maxDepth - (d + 1) + 1 := by omega
        have hbody := fun body => runLine_agrees untouched_atDepth.effectsKeep (ih hroom (by omega))
          (call_atDepth _ (d + 1)) body
        rw [hlevels]
        exact invoke_agrees (fun body => (guarded_agrees hroom _ body).trans
          (nested_agrees (hbody body))) name args
      · rw [Nat.sub_self]
        exact guarded_agrees_full _ name args

/-! ### Sessions -/

theorem doCommand_depth (line : String) (c : Console) : (doCommand line c).depth = 0 := by
  have hend := execute_atDepth line 0 { c with depth := 0 } rfl
  unfold doCommand
  cases hrun : execute line { c with depth := 0 } with
  | ok v c' =>
      rw [hrun] at hend
      exact hend
  | error e c' =>
      rw [hrun] at hend
      exact hend

theorem turns_depth (began : Millis) (slots : List Nat) (c : Console) :
    (∀ turn ∈ turns began slots c, turn.before.depth = c.depth) ∧
      (slots.foldl (runTask began) c).depth = c.depth :=
  turns_keep untouched_atDepth began slots rfl

/-- The console after some operations. -/
def session (ops : List Operation) (c : Console) : Console :=
  ops.foldl (fun c op => op.run c) c

theorem session_depth (ops : List Operation) {c : Console} (h : c.depth = 0) :
    (session ops c).depth = 0 := by
  induction ops generalizing c with
  | nil => exact h
  | cons op ops ih =>
      refine ih ?_
      cases op with
      | command line => exact doCommand_depth line c
      | pass =>
          exact (turns_depth _ _ { c with host := c.host.readClock.2 }).2.trans h

/-- Whatever is run next finds no call open. -/
structure AtRest (c : Console) : Prop where
  depth : c.depth = 0
  turns : ∀ turn ∈ passTurns c, turn.before.depth = 0

/-- **Every line ends, and gives back the calls that it opens.**  Whatever the storage holds, and
whatever the macros do to it while they run, a line that finds at most `maxDepth` calls open never
has more than `maxDepth` of them open: the recursion of calls, followed as far as the console's count
leaves room for, is the whole run, and nothing beyond it matters.  However the line ends, as many
calls are open as before.  In a session, therefore, every command and every turn of a pass finds no
call open, whether what came before it ran into the limit or not. -/
theorem execute_ends :
    (∀ (line : String) (c : Console), c.depth ≤ maxDepth →
      (∀ beyond n, maxDepth - c.depth ≤ n →
        runLine (callWithin beyond n) line c = execute line c) ∧
      (endState (execute line c)).depth = c.depth) ∧
    ∀ (host : Host) (functions : FunctionTable) (slots : Nat) (idleInterval : Duration)
      (ops : List Operation), AtRest (session ops (.new host functions slots idleInterval)) := by
  refine ⟨fun line c h => ⟨fun beyond n hn => ?_, execute_atDepth line _ c rfl⟩, ?_⟩
  · exact runLine_agrees untouched_atDepth.effectsKeep (callWithin_agrees beyond h hn)
      (call_atDepth _ c.depth) line c rfl
  · intro host functions slots idleInterval ops
    have hrest := @session_depth ops (.new host functions slots idleInterval) rfl
    exact ⟨hrest, fun turn hturn => ((turns_depth _ _ _).1 turn hturn).trans hrest⟩

/-- A call of a stored macro runs its body. -/
theorem invoke_stored {name body : String} {c : Console}
    (hfunction : c.functions.lookup? name = none) (hbody : c.host.storage.body? name = some body)
    (run : String → Action Arg) : invoke run name [] c = run body c := by
  rw [invoke_eq, hfunction, hbody]
  rfl

/-- A macro that calls itself runs into the limit, however much room there is. -/
theorem call_self {name : String} (hname : IsName name.toList) (hword : name ∉ keywords)
    (levels : Nat) {c : Console} (hfunction : c.functions.lookup? name = none)
    (hbody : c.host.storage.body? name = some name) :
    call levels name [] c = .error (.recursionLimit maxDepth) c := by
  induction levels generalizing c with
  | zero => exact invoke_stored hfunction hbody _
  | succ levels ih =>
      rw [call, invoke_stored hfunction hbody, nested, runLine, tokenize_name hname]
      simp only [runTokens_name _ hword]
      rw [ih]
      · rfl
      all_goals assumption

/-- A console whose only macro calls itself. -/
def selfCalling : Console :=
  .new { small.host with storage := ⟨Storage.encodeEntry "a" "a"⟩ } small.functions 2 .zero

/-- The limit is reached, and the next command finds no call open. -/
theorem execute_ends_selfCalling :
    selfCalling.depth ≤ maxDepth ∧ maxDepth - selfCalling.depth ≤ 16 ∧
      execute "a" selfCalling = .error (.recursionLimit 16) selfCalling ∧
      runLine (callWithin (fun _ => return .num 0) 16) "a" selfCalling = execute "a" selfCalling ∧
      (endState (execute "a" selfCalling)).depth = 0 ∧
      AtRest (session [.command "a", .pass] selfCalling) := by
  have hname : IsName "a".toList := ⟨'a', [], rfl, by decide, by simp⟩
  have hlimit : execute "a" selfCalling = .error (.recursionLimit 16) selfCalling := by
    rw [execute_eq (tokenize_name hname), runTokens_name _ (by decide)]
    exact call_self hname (by decide) _ (by cbv) (by cbv)
  obtain ⟨hwithin, hdepth⟩ := execute_ends.1 "a" selfCalling (by decide)
  exact ⟨by decide, by decide, hlimit, hwithin _ 16 (by decide), hdepth,
    execute_ends.2 _ _ _ _ _⟩

end Console

end BoardConsole
