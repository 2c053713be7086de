import BoardConsole.Proofs.Console.Meaning
import BoardConsole.Proofs.Script.Definitions

/-!
# Console — What running a line keeps

An action keeps a property of the state if it ends with it wherever it began with it, by a value or
by an error (`Keeps`).  All that a line does to the storage is to define, to remove and to erase
macros, and to call functions.  So a property that these keep is kept by every line, however deep
its calls go: `execute_keeps`.

The definitions that a line makes stand in it, or in the body of a macro that it runs; a body is
what an earlier definition stored.  `Invariant` asks for both: what is stored comes from a
definition in an admitted line, and what is stored is admitted as a line.

The rest of a console, beside the host and the tasks, is there as it was when the line began:
`Untouched.execute`.
-/

namespace BoardConsole

/-- The state that an action ends in, however it ends. -/
def endState {ε σ α : Type} : EStateM.Result ε σ α → σ
  | .ok _ s    => s
  | .error _ s => s

/-- An action keeps a property of the state, however it ends. -/
def Keeps {ε σ α : Type} (I : σ → Prop) (action : EStateM ε σ α) : Prop :=
  ∀ s, I s → I (endState (action s))

section Keeps
variable {ε σ α β : Type} {I : σ → Prop}

theorem Keeps.pure (a : α) : Keeps I (Pure.pure a : EStateM ε σ α) := fun _ h => h

theorem Keeps.throw (e : ε) : Keeps I (throw e : EStateM ε σ α) := fun _ h => h

theorem Keeps.bind {action : EStateM ε σ α} {k : α → EStateM ε σ β} (h : Keeps I action)
    (hk : ∀ a, Keeps I (k a)) : Keeps I (action >>= k) := by
  intro s hs
  have hend := h s hs
  cases hrun : action s with
  | ok a s' =>
      rw [hrun] at hend
      rw [bind_of_ok hrun]
      exact hk a s' hend
  | error e s' =>
      rw [hrun] at hend
      rw [bind_of_error hrun]
      exact hend

theorem Keeps.map {action : EStateM ε σ α} (f : α → β) (h : Keeps I action) :
    Keeps I (f <$> action) := by
  intro s hs
  have hend := h s hs
  show I (endState (EStateM.map f action s))
  unfold EStateM.map
  cases hrun : action s with
  | ok a s' =>
      rw [hrun] at hend
      exact hend
  | error e s' =>
      rw [hrun] at hend
      exact hend

theorem Keeps.get_bind {k : σ → EStateM ε σ β} (hk : ∀ s, I s → I (endState (k s s))) :
    Keeps I (get >>= k) := hk

theorem Keeps.modify {f : σ → σ} (h : ∀ s, I s → I (f s)) :
    Keeps I (modify f : EStateM ε σ Unit) := h

theorem Keeps.forM {f : α → EStateM ε σ Unit} (as : List α) (h : ∀ a, Keeps I (f a)) :
    Keeps I (as.forM f) := by
  induction as with
  | nil => exact Keeps.pure ()
  | cons a as ih => exact (h a).bind fun _ => ih

end Keeps

namespace Console
open Script Program Lexer

/-- The functions are those of a table, and the storage has a property. -/
def Within (t : FunctionTable) (J : Storage → Prop) (c : Console) : Prop :=
  c.functions = t ∧ J c.host.storage

section Statements
variable {t : FunctionTable} {J : Storage → Prop}

theorem keeps_of_same {α : Type} {action : Action α}
    (h : ∀ c, (endState (action c)).functions = c.functions ∧
      (endState (action c)).host.storage = c.host.storage) : Keeps (Within t J) action := by
  rintro c ⟨rfl, hJ⟩
  exact ⟨(h c).1, (h c).2 ▸ hJ⟩

theorem printListing_storage (h : Host) : h.printListing.storage = h.storage := by
  unfold Host.printListing
  generalize h.storage.entries = entries
  induction entries generalizing h with
  | nil => rfl
  | cons entry entries ih => exact ih (h.emitLine _)

theorem onHost_keeps {f : Host → Host} (h : ∀ host, (f host).storage = host.storage) :
    Keeps (Within t J) (onHost f) :=
  keeps_of_same fun c => ⟨rfl, h c.host⟩

theorem printLine_keeps (text : String) : Keeps (Within t J) (printLine text) :=
  onHost_keeps fun _ => rfl

theorem readClock_keeps : Keeps (Within t J) readClock :=
  keeps_of_same fun _ => ⟨rfl, rfl⟩

theorem start_keeps (name : String) (interval : Int32) :
    Keeps (Within t J) (start name interval) := by
  refine Keeps.get_bind fun c hc => ?_
  split
  · exact hc
  · refine Keeps.bind readClock_keeps (fun now => Keeps.get_bind fun c hc => ?_) c hc
    cases c.tasks.start name (UInt64.ofNat interval.toInt.toNat) now with
    | ok started => exact hc
    | error e => exact hc

theorem stop_keeps (id : Int32) : Keeps (Within t J) (stop id) := by
  refine Keeps.modify fun c hc => ?_
  split
  · exact hc
  · exact hc

theorem stopAll_keeps : Keeps (Within t J) stopAll := Keeps.modify fun _ hc => hc

theorem printUsage_keeps : Keeps (Within t J) printUsage :=
  Keeps.get_bind fun c hc => printLine_keeps _ c hc

theorem printTasks_keeps : Keeps (Within t J) printTasks :=
  Keeps.get_bind fun c hc => Keeps.forM _ (fun _ => printLine_keeps _) c hc

/-- A macro's definition stands in an admitted line. -/
def Defined (admits : String → Prop) (name body : String) : Prop :=
  ∃ line ts, admits line ∧ tokenize line = .ok ts ∧ definition name body <:+: ts

/-- A property that a storage keeps while admitted lines are run, and that makes every stored body
an admitted line. -/
structure Invariant (admits : String → Prop) (J : Storage → Prop) : Prop where
  define : ∀ {s s' : Storage} {name body : String}, J s → Defined admits name body →
    name ∉ keywords → '\x00' ∉ body.toList → s.define name body = .ok s' → J s'
  remove : ∀ {s s' : Storage} {name : String}, J s → s.remove? name = some s' → J s'
  erase : ∀ {s : Storage}, J s → J s.eraseAll
  body : ∀ {s : Storage} {name body : String}, J s → s.body? name = some body → admits body

variable {admits : String → Prop}

theorem hostAction_keeps {α : Type} {action : HostAction α}
    (h : Keeps (fun host : Host => J host.storage) action) :
    Keeps (Within t J) (hostAction action) := by
  rintro c ⟨ht, hJ⟩
  have hend := h c.host hJ
  unfold hostAction
  cases hrun : action c.host with
  | ok a host =>
      rw [hrun] at hend
      exact ⟨ht, hend⟩
  | error e host =>
      rw [hrun] at hend
      exact ⟨ht, hend⟩

theorem define_keeps (inv : Invariant admits J) {name body : String}
    (h : Defined admits name body) : Keeps (Within t J) (define name body) := by
  unfold Console.define
  cases hword : keywords.contains name with
  | true => exact Keeps.throw _
  | false =>
  cases hnul : body.contains '\x00' with
  | true => exact Keeps.throw _
  | false =>
      refine hostAction_keeps (Keeps.get_bind fun host hJ => ?_)
      cases hdefine : host.storage.define name body with
      | error e => exact hJ
      | ok storage =>
          refine inv.define hJ h ?_ ?_ hdefine
          · simpa using hword
          · simpa using hnul

theorem remove_keeps (inv : Invariant admits J) (name : String) :
    Keeps (Within t J) (remove name) := by
  refine Keeps.get_bind fun c hc => ?_
  cases hremove : c.host.storage.remove? name with
  | none => exact hc
  | some storage => exact ⟨hc.1, inv.remove hc.2 hremove⟩

theorem removeAll_keeps (inv : Invariant admits J) : Keeps (Within t J) removeAll :=
  Keeps.modify fun _ hc => ⟨hc.1, inv.erase hc.2⟩

end Statements

/-! ### Programs -/

section Programs
variable {I : Console → Prop} {call : String → List Arg → Action Arg}

mutual

theorem eval_keeps (hcall : ∀ name args, Keeps I (call name args)) :
    ∀ e : Expr, Keeps I (eval call e)
  | .num _       => .pure _
  | .str _       => .pure _
  | .not e       => (eval_keeps hcall e).bind fun _ => .pure _
  | .negate e    => (eval_keeps hcall e).bind fun _ => .pure _
  | .call _ args => (evalAll_keeps hcall args).bind fun _ => hcall _ _
  | .fault _     => .throw _

theorem evalAll_keeps (hcall : ∀ name args, Keeps I (call name args)) :
    ∀ es : List Expr, Keeps I (evalAll call es)
  | []      => .pure _
  | e :: es => (eval_keeps hcall e).bind fun _ => (evalAll_keeps hcall es).bind fun _ => .pure _

end

/-- What the statements of a program do, once their arguments have their values, keeps a property;
`defines` tells which macros they define. -/
structure EffectsKeep (I : Console → Prop) (defines : String → String → Prop) : Prop where
  define    : ∀ name body, defines name body → Keeps I (define name body)
  remove    : ∀ name, Keeps I (remove name)
  removeAll : Keeps I removeAll
  list      : Keeps I (onHost Host.printListing)
  usage     : Keeps I printUsage
  tasks     : Keeps I printTasks
  start     : ∀ name interval, Keeps I (start name interval)
  stop      : ∀ id, Keeps I (stop id)
  stopAll   : Keeps I stopAll
  print     : ∀ vs, Keeps I (printValues vs)

variable {defines : String → String → Prop}

theorem runStatement_keeps (effects : EffectsKeep I defines)
    (hcall : ∀ name args, Keeps I (call name args)) (s : Statement)
    (hdef : ∀ name body, s = .define name body → defines name body) :
    Keeps I (runStatement call s) := by
  cases s with
  | define name body => exact (effects.define name body (hdef name body rfl)).bind fun _ => .pure _
  | remove name => exact (effects.remove name).bind fun _ => .pure _
  | removeAll => exact effects.removeAll.bind fun _ => .pure _
  | list => exact effects.list.bind fun _ => .pure _
  | usage => exact effects.usage.bind fun _ => .pure _
  | tasks => exact effects.tasks.bind fun _ => .pure _
  | start name interval =>
      cases interval with
      | none => exact (effects.start name 0).bind fun _ => .pure _
      | some e =>
          exact (eval_keeps hcall e).bind fun _ => (effects.start name _).bind fun _ => .pure _
  | stop id =>
      cases id with
      | none => exact effects.stopAll.bind fun _ => .pure _
      | some e => exact (eval_keeps hcall e).bind fun _ => (effects.stop _).bind fun _ => .pure _
  | print parts =>
      exact (evalAll_keeps hcall parts).bind fun _ => (effects.print _).bind fun _ => .pure _
  | value e => exact (eval_keeps hcall e).bind fun _ => .pure _
  | fault fault => exact .throw _

theorem runProgram_keeps (effects : EffectsKeep I defines)
    (hcall : ∀ name args, Keeps I (call name args)) (p : Program) (last : Arg)
    (hdef : ∀ name body, .define name body ∈ p → defines name body) :
    Keeps I (runProgram call last p) := by
  induction p generalizing last with
  | nil => exact .pure _
  | cons s ss ih =>
      have hs := runStatement_keeps effects hcall s fun name body hs =>
        hdef name body (by simp [hs])
      exact hs.bind fun v => ih _ fun name body hmem => hdef name body (List.mem_cons_of_mem _ hmem)

end Programs

section Running
variable {t : FunctionTable} {J : Storage → Prop} {admits : String → Prop}
  {call : String → List Arg → Action Arg}

theorem effectsKeep_within (inv : Invariant admits J) :
    EffectsKeep (Within t J) (Defined admits) where
  define    := fun _ _ h => define_keeps inv h
  remove    := remove_keeps inv
  removeAll := removeAll_keeps inv
  list      := onHost_keeps printListing_storage
  usage     := printUsage_keeps
  tasks     := printTasks_keeps
  start     := start_keeps
  stop      := stop_keeps
  stopAll   := stopAll_keeps
  print     := fun _ => printLine_keeps _

/-- Running the first tokens of an admitted line. -/
theorem runTokens_keeps (inv : Invariant admits J)
    (hcall : ∀ name args, Keeps (Within t J) (call name args)) {line : String} {ts us : List Token}
    (hline : admits line) (htokens : tokenize line = .ok (ts ++ us)) (last : Arg) :
    Keeps (Within t J) (runTokens call last ts) := by
  rw [runTokens_eq]
  refine runProgram_keeps (effectsKeep_within inv) hcall _ last fun name body hmem =>
    ⟨line, _, hline, htokens, ?_⟩
  exact (definition_of_mem hmem).trans (List.prefix_append ts us).isInfix

theorem runLine_keeps (inv : Invariant admits J)
    (hcall : ∀ name args, Keeps (Within t J) (call name args)) {line : String}
    (hline : admits line) : Keeps (Within t J) (runLine call line) := by
  unfold runLine
  cases htokens : tokenize line with
  | error fault => exact .throw _
  | ok ts =>
      rw [← List.append_nil ts] at htokens
      exact runTokens_keeps inv hcall hline htokens _

/-- A function keeps a property of the storage, with the listing at hand. -/
def FunctionKeeps (J : Storage → Prop) (f : Function) : Prop :=
  ∀ args, Keeps (fun h : Host => J h.storage) (f ⟨args, Host.printListing⟩)

theorem callFunction_keeps {f : Function} (hf : FunctionKeeps J f) (args : List Arg) :
    Keeps (Within t J) (callFunction f args) :=
  Keeps.map _ (hostAction_keeps (hf args))

/-- A call that is opened is closed again, however what it runs ends. -/
theorem endState_nested {α : Type} (action : Action α) (c : Console) :
    endState (nested action c) =
      { endState (action { c with depth := c.depth + 1 }) with
        depth := (endState (action { c with depth := c.depth + 1 })).depth - 1 } := by
  unfold nested
  cases action { c with depth := c.depth + 1 } <;> rfl

theorem nested_keeps {α : Type} {action : Action α} (h : Keeps (Within t J) action) :
    Keeps (Within t J) (nested action) := by
  intro c hc
  rw [endState_nested]
  exact h { c with depth := c.depth + 1 } hc

theorem invoke_keeps (inv : Invariant admits J)
    (ht : ∀ name f, t.lookup? name = some f → FunctionKeeps J f) {run : String → Action Arg}
    (hrun : ∀ body, admits body → Keeps (Within t J) (run body)) (name : String) (args : List Arg) :
    Keeps (Within t J) (invoke run name args) := by
  intro c hc
  rw [invoke_eq]
  cases hf : c.functions.lookup? name with
  | some f =>
      rw [hc.1] at hf
      exact callFunction_keeps (ht name f hf) args c hc
  | none =>
  cases hbody : c.host.storage.body? name with
  | none => exact hc
  | some body =>
  cases args.isEmpty with
  | true => exact hrun body (inv.body hc.2 hbody) c hc
  | false => exact hc

end Running

section Calls
variable {t : FunctionTable} {J : Storage → Prop} {admits : String → Prop}

theorem call_keeps (inv : Invariant admits J)
    (ht : ∀ name f, t.lookup? name = some f → FunctionKeeps J f) (levels : Nat) (name : String)
    (args : List Arg) : Keeps (Within t J) (call levels name args) := by
  induction levels generalizing name args with
  | zero => exact invoke_keeps inv ht (fun _ _ => .throw _) name args
  | succ levels ih =>
      exact invoke_keeps inv ht (fun body hbody => nested_keeps (runLine_keeps inv ih hbody))
        name args

theorem execute_keeps (inv : Invariant admits J)
    (ht : ∀ name f, t.lookup? name = some f → FunctionKeeps J f) {line : String}
    (hline : admits line) : Keeps (Within t J) (execute line) :=
  Keeps.get_bind fun c hc => runLine_keeps inv (call_keeps inv ht _) hline c hc

end Calls

/-! ### What no line touches -/

/-- A property for each number of open calls.  The host and the tasks are no part of it; opening a
call leads to the next one, and closing the call leads back. -/
structure Untouched (I : Nat → Console → Prop) : Prop where
  effects : ∀ {d : Nat} {c : Console} (host : Host) (tasks : TaskTable), I d c →
    I d { c with host, tasks }
  opens : ∀ {d : Nat} {c : Console}, I d c → I (d + 1) { c with depth := c.depth + 1 }
  closes : ∀ {d : Nat} {c : Console}, I (d + 1) c → I d { c with depth := c.depth - 1 }

namespace Untouched
variable {I : Nat → Console → Prop} {d : Nat}

theorem hostAction {α : Type} (h : Untouched I) (action : HostAction α) :
    Keeps (I d) (hostAction action) := by
  intro c hc
  unfold Console.hostAction
  cases action c.host with
  | ok a host => exact h.effects host c.tasks hc
  | error e host => exact h.effects host c.tasks hc

theorem onHost (h : Untouched I) (f : Host → Host) : Keeps (I d) (onHost f) :=
  Keeps.modify fun c hc => h.effects (f c.host) c.tasks hc

theorem printLine (h : Untouched I) (text : String) : Keeps (I d) (printLine text) :=
  h.onHost (·.emitLine text)

theorem define (h : Untouched I) (name body : String) : Keeps (I d) (define name body) := by
  unfold Console.define
  cases keywords.contains name with
  | true => exact Keeps.throw _
  | false =>
  cases body.contains '\x00' with
  | true => exact Keeps.throw _
  | false => exact h.hostAction _

theorem remove (h : Untouched I) (name : String) : Keeps (I d) (remove name) := by
  refine Keeps.get_bind fun c hc => ?_
  cases c.host.storage.remove? name with
  | none => exact hc
  | some storage => exact h.effects { c.host with storage } c.tasks hc

theorem start (h : Untouched I) (name : String) (interval : Int32) :
    Keeps (I d) (start name interval) := by
  refine Keeps.get_bind fun c hc => ?_
  split
  · exact hc
  · have hread : Keeps (I d) readClock := fun c hc => h.effects c.host.readClock.2 c.tasks hc
    refine Keeps.bind hread (fun now => Keeps.get_bind fun c hc => ?_) c hc
    cases c.tasks.start name (UInt64.ofNat interval.toInt.toNat) now with
    | ok started => exact h.effects c.host started.2 hc
    | error e => exact hc

theorem stop (h : Untouched I) (id : Int32) : Keeps (I d) (stop id) := by
  refine Keeps.modify fun c hc => ?_
  split
  · exact hc
  · exact h.effects c.host _ hc

/-- What a statement does changes the host and the tasks alone. -/
theorem effectsKeep (h : Untouched I) : EffectsKeep (I d) fun _ _ => True where
  define    := fun name body _ => h.define name body
  remove    := h.remove
  removeAll := h.onHost fun host => { host with storage := host.storage.eraseAll }
  list      := h.onHost _
  usage     := Keeps.get_bind fun c hc => h.printLine _ c hc
  tasks     := Keeps.get_bind fun c hc => Keeps.forM _ (fun _ => h.printLine _) c hc
  start     := h.start
  stop      := h.stop
  stopAll   := Keeps.modify fun c hc => h.effects c.host c.tasks.stopAll hc
  print     := fun _ => h.printLine _

theorem runLine (h : Untouched I) {call : String → List Arg → Action Arg}
    (hcall : ∀ name args, Keeps (I d) (call name args)) (line : String) :
    Keeps (I d) (runLine call line) := by
  unfold Console.runLine
  cases tokenize line with
  | error fault => exact .throw _
  | ok ts =>
      simp only [runTokens_eq]
      exact runProgram_keeps h.effectsKeep hcall _ _ fun _ _ _ => trivial

theorem invoke (h : Untouched I) {run : String → Action Arg}
    (hrun : ∀ body, Keeps (I d) (run body)) (name : String) (args : List Arg) :
    Keeps (I d) (invoke run name args) := by
  intro c hc
  rw [invoke_eq]
  cases c.functions.lookup? name with
  | some f => exact Keeps.map _ (h.hostAction _) c hc
  | none =>
  cases c.host.storage.body? name with
  | none => exact hc
  | some body =>
  cases args.isEmpty with
  | true => exact hrun body c hc
  | false => exact hc

theorem nested {α : Type} (h : Untouched I) {action : Action α}
    (haction : Keeps (I (d + 1)) action) : Keeps (I d) (nested action) := by
  intro c hc
  rw [endState_nested]
  exact h.closes (haction _ (h.opens hc))

theorem call (h : Untouched I) (levels d : Nat) (name : String) (args : List Arg) :
    Keeps (I d) (call levels name args) := by
  induction levels generalizing d name args with
  | zero => exact h.invoke (fun _ => .throw _) name args
  | succ levels ih =>
      exact h.invoke (fun body => h.nested (h.runLine (ih (d + 1)) body)) name args

/-- **No line touches it**, whether the line fails or not. -/
theorem execute (h : Untouched I) (line : String) (d : Nat) : Keeps (I d) (execute line) :=
  Keeps.get_bind fun c hc => h.runLine (h.call _ d) line c hc

end Untouched

end Console

end BoardConsole
