import BoardConsole.Proofs.Console.Reached
import BoardConsole.Proofs.Tasks.Log

/-!
# Console — What a line does to the tasks

The log of a line is what running it does to the task table, event by event, in the order in which
it is done.  It is read off the program that the line stands for: `run` and `stop` are all that
touches the table, wherever they stand in the line or in the body of a macro that it calls, and a
`run` that fails starts nothing.

The log is exact (`execute_tells`): the tasks that a line leaves are those that it found with the
log replayed, and, where no function turns the clock back, no macro is started at a reading later
than the clock's largest.
-/

namespace BoardConsole.Console
open Script Program

/-- What is done to the tasks, in order, on the console that an action is run on. -/
abbrev Log := Console → List TaskEvent

/-- Nothing is done to the tasks. -/
def silent : Log := fun _ => []

/-- The log of an action, and of what follows it unless it fails. -/
def andThen {α : Type} (action : Action α) (first : Log) (next : α → Log) : Log := fun c =>
  first c ++
    match action c with
    | .ok a d    => next a d
    | .error _ _ => []

/-- An interval in milliseconds; a negative one is zero. -/
def intervalOf (interval : Int32) : Millis := UInt64.ofNat interval.toInt.toNat

/-- The log of starting a macro. -/
def startLog (name : String) (interval : Int32) : Log := fun c =>
  if (c.host.storage.body? name).isNone then []
  else
    let now := c.host.readClock.1
    match c.tasks.start name (intervalOf interval) now with
    | .ok _    => [.started name (intervalOf interval) now]
    | .error _ => []

/-- The log of stopping the task in a slot. -/
def stopLog (id : Int32) : Log := fun _ => if id < 0 then [] else [.stopped id.toInt.toNat]

section Logs
variable (call : String → List Arg → Action Arg) (callLog : String → List Arg → Log)

mutual

/-- The log of an expression. -/
def evalLog : Expr → Log
  | .num _ | .str _ | .fault _ => silent
  | .not e | .negate e         => evalLog e
  | .call name args            => andThen (evalAll call args) (evalAllLog args) (callLog name)

/-- The log of expressions, from left to right. -/
def evalAllLog : List Expr → Log
  | []      => silent
  | e :: es => andThen (eval call e) (evalLog e) fun _ => evalAllLog es

end

/-- The log of a statement. -/
def statementLog : Statement → Log
  | .define _ _ | .remove _ | .removeAll | .list | .usage | .tasks | .fault _ => silent
  | .start name none     => startLog name 0
  | .start name (some e) =>
    andThen (eval call e) (evalLog call callLog e) fun interval => startLog name interval.toNum
  | .stop none           => fun _ => [.stoppedAll]
  | .stop (some e)       =>
    andThen (eval call e) (evalLog call callLog e) fun id => stopLog id.toNum
  | .print parts         => evalAllLog call callLog parts
  | .value e             => evalLog call callLog e

/-- The log of statements in order. -/
def programLog : Program → Log
  | []      => silent
  | s :: ss =>
    andThen (runStatement call s) (statementLog call callLog s) fun _ => programLog ss

/-- The log of the program that a line stands for. -/
def textLog (line : String) : Log :=
  match tokenize line with
  | .error _ => silent
  | .ok ts   => programLog call callLog (ofTokens ts)

end Logs

/-- The log of a call, where `runLog` is that of a body: functions leave the tasks alone. -/
def invokeLog (runLog : String → Log) (name : String) (args : List Arg) : Log := fun c =>
  match c.functions.lookup? name with
  | some _ => []
  | none =>
    match c.host.storage.body? name with
    | none      => []
    | some body => if args.isEmpty then runLog body c else []

/-- The log of a call where `levels` more macro calls may be open at once. -/
def callLog : Nat → String → List Arg → Log
  | 0          => invokeLog fun _ => silent
  | levels + 1 => invokeLog fun body c =>
    textLog (callProgram levels) (callLog levels) body { c with depth := c.depth + 1 }

/-- The log of a line. -/
def executeLog (line : String) : Log := fun c =>
  textLog (callProgram (maxDepth - c.depth)) (callLog (maxDepth - c.depth)) line c

theorem executeLog_of_isProgram {line : String} {ts : List Token} {p : Program}
    (h : tokenize line = .ok ts) (hp : IsProgram ts p) (c : Console) :
    executeLog line c
      = programLog (callProgram (maxDepth - c.depth)) (callLog (maxDepth - c.depth)) p c := by
  rw [executeLog, textLog, h]
  simp only [ofTokens_of_isProgram hp]

/-! ### Logs are exact -/

/-- A console comes from another by what a log tells: the tasks are as it says, and, unless a
function turns the clock back, the clock has run on and shows at least the readings in the log. -/
structure Follows (c : Console) (log : List TaskEvent) (d : Console) : Prop where
  functions : d.functions = c.functions
  tasks     : d.tasks = c.tasks.replay log
  latest    : c.functions.Steady → c.host.clock.latest ≤ d.host.clock.latest
  started   : c.functions.Steady → ∀ name interval now, .started name interval now ∈ log →
    now ≤ d.host.clock.latest

namespace Follows
variable {c d e : Console} {log more : List TaskEvent}

theorem refl (c : Console) : Follows c [] c where
  functions := rfl
  tasks     := rfl
  latest    := fun _ => UInt64.le_refl _
  started   := by simp

theorem trans (h : Follows c log d) (h' : Follows d more e) : Follows c (log ++ more) e where
  functions := h'.functions.trans h.functions
  tasks     := by rw [h'.tasks, h.tasks, TaskTable.replay_append]
  latest    := fun hs => UInt64.le_trans (h.latest hs) (h'.latest (h.functions ▸ hs))
  started   := fun hs name interval now hmem => by
    have hs' : d.functions.Steady := h.functions ▸ hs
    rcases List.mem_append.mp hmem with hmem | hmem
    · exact UInt64.le_trans (h.started hs name interval now hmem) (h'.latest hs')
    · exact h'.started hs' name interval now hmem

end Follows

/-- A log tells what an action does to the tasks, however it ends. -/
def Tells {α : Type} (action : Action α) (log : Log) : Prop :=
  ∀ c, Follows c (log c) (endState (action c))

namespace Tells
variable {α β : Type} {action : Action α} {log : Log}

theorem pure (a : α) : Tells (Pure.pure a : Action α) silent := Follows.refl

theorem throw (e : CommandError) : Tells (throw e : Action α) silent := Follows.refl

theorem bind {k : α → Action β} {next : α → Log} (h : Tells action log)
    (hk : ∀ a, Tells (k a) (next a)) : Tells (action >>= k) (andThen action log next) := by
  intro c
  have hfirst := h c
  unfold andThen
  cases hrun : action c with
  | ok a d =>
      rw [hrun] at hfirst
      rw [bind_of_ok hrun]
      exact hfirst.trans (hk a d)
  | error e d =>
      rw [hrun] at hfirst
      rw [bind_of_error hrun]
      rwa [List.append_nil]

theorem andThen_silent (action : Action α) (log : Log) :
    andThen action log (fun _ => silent) = log := by
  funext c
  unfold andThen
  cases action c <;> exact List.append_nil _

/-- What follows an action does nothing to the tasks. -/
theorem bind_silent {k : α → Action β} (h : Tells action log)
    (hk : ∀ a, Tells (k a) silent) : Tells (action >>= k) log := by
  rw [← andThen_silent action log]
  exact h.bind hk

end Tells

/-! ### Actions -/

/-- A console comes from another by something that the tasks and the clock are no part of. -/
structure Beside (c d : Console) : Prop where
  functions : d.functions = c.functions
  tasks     : d.tasks = c.tasks
  latest    : d.host.clock.latest = c.host.clock.latest

theorem Beside.follows {c d : Console} (h : Beside c d) : Follows c [] d where
  functions := h.functions
  tasks     := h.tasks
  latest    := fun _ => by rw [h.latest]; exact UInt64.le_refl _
  started   := by simp

theorem tells_silent {α : Type} {action : Action α} (h : ∀ c, Keeps (Beside c) action) :
    Tells action silent :=
  fun c => (h c c ⟨rfl, rfl, rfl⟩).follows

section Actions
variable (c : Console)

theorem onHost_beside {f : Host → Host} (hf : ∀ h, (f h).clock = h.clock) :
    Keeps (Beside c) (onHost f) :=
  Keeps.modify fun d h => ⟨h.functions, h.tasks, by rw [← h.latest, hf]⟩

theorem printLine_beside (text : String) : Keeps (Beside c) (printLine text) :=
  onHost_beside c fun _ => rfl

theorem printUsage_beside : Keeps (Beside c) printUsage :=
  Keeps.get_bind fun d h => printLine_beside c _ d h

theorem printTasks_beside : Keeps (Beside c) printTasks :=
  Keeps.get_bind fun d h => Keeps.forM _ (fun _ => printLine_beside c _) d h

theorem removeAll_beside : Keeps (Beside c) removeAll := onHost_beside c fun _ => rfl

theorem remove_beside (name : String) : Keeps (Beside c) (remove name) := by
  refine Keeps.get_bind fun d h => ?_
  cases d.host.storage.remove? name with
  | none => exact h
  | some storage => exact ⟨h.functions, h.tasks, h.latest⟩

theorem hostAction_beside {α : Type} {action : HostAction α}
    (h : ∀ m, Keeps (fun host : Host => host.clock.latest = m) action) :
    Keeps (Beside c) (hostAction action) := by
  intro d hd
  have hend := h _ d.host rfl
  unfold hostAction
  cases hrun : action d.host with
  | ok a host =>
      rw [hrun] at hend
      exact ⟨hd.functions, hd.tasks, hend.trans hd.latest⟩
  | error e host =>
      rw [hrun] at hend
      exact ⟨hd.functions, hd.tasks, hend.trans hd.latest⟩

theorem define_beside (name body : String) : Keeps (Beside c) (define name body) := by
  unfold define
  cases keywords.contains name with
  | true => exact Keeps.throw _
  | false =>
  cases body.contains '\x00' with
  | true => exact Keeps.throw _
  | false =>
      refine hostAction_beside c fun m => Keeps.get_bind fun host hm => ?_
      cases host.storage.define name body with
      | error e => exact hm
      | ok storage => exact hm

end Actions

/-- A function leaves the tasks alone. -/
theorem callFunction_follows {f : Function} {c : Console}
    (hf : c.functions.Steady → BoardConsole.Steady f) (args : List Arg) :
    Follows c [] (endState (callFunction f args c)) := by
  have hend : endState (callFunction f args c)
      = { c with host := endState (f ⟨args, Host.printListing⟩ c.host) } := by
    show endState (EStateM.map _ (hostAction _) c) = _
    unfold EStateM.map hostAction
    cases f ⟨args, Host.printListing⟩ c.host <;> rfl
  rw [hend]
  exact ⟨rfl, rfl, fun hs => hf hs args _ c.host (UInt64.le_refl _), by simp⟩

/-- Starting a macro, all at once. -/
theorem start_eq (name : String) (interval : Int32) (c : Console) :
    start name interval c =
      if (c.host.storage.body? name).isNone then .error (.unknownName name) c
      else
        match c.tasks.start name (intervalOf interval) c.host.readClock.1 with
        | .ok (_, tasks) => .ok () { c with host := c.host.readClock.2, tasks }
        | .error e       => .error e { c with host := c.host.readClock.2 } := by
  unfold start
  simp only [bind, EStateM.bind, get, getThe, MonadStateOf.get, EStateM.get]
  cases (c.host.storage.body? name).isNone with
  | true => rfl
  | false =>
      rw [if_neg Bool.false_ne_true, if_neg Bool.false_ne_true]
      show (match c.tasks.start name (intervalOf interval) c.host.readClock.1 with
        | .ok (_, tasks) => (set _ : Action PUnit)
        | .error e => throw e) { c with host := c.host.readClock.2 } = _
      cases c.tasks.start name (intervalOf interval) c.host.readClock.1 <;> rfl

theorem start_tells (name : String) (interval : Int32) :
    Tells (start name interval) (startLog name interval) := by
  intro c
  rw [start_eq, startLog]
  cases (c.host.storage.body? name).isNone with
  | true => exact .refl c
  | false =>
      have hread : c.host.clock.latest ≤ c.host.readClock.2.clock.latest :=
        c.host.clock.latest_le_read
      rw [if_neg Bool.false_ne_true, if_neg Bool.false_ne_true]
      dsimp only
      cases hstart : c.tasks.start name (intervalOf interval) c.host.readClock.1 with
      | error e => exact ⟨rfl, rfl, fun _ => hread, by simp⟩
      | ok found =>
          obtain ⟨id, tasks⟩ := found
          have happly : c.tasks.apply (.started name (intervalOf interval) c.host.readClock.1)
              = tasks := by simp only [TaskTable.apply, hstart]
          refine ⟨rfl, happly.symm, fun _ => hread, fun _ name' interval' now' hmem => ?_⟩
          cases List.mem_singleton.mp hmem
          exact UInt64.le_refl _

theorem stop_tells (id : Int32) : Tells (stop id) (stopLog id) := by
  intro c
  show Follows c (if id < 0 then [] else _) (if id < 0 then c else _)
  split
  · exact .refl c
  · exact ⟨rfl, rfl, fun _ => UInt64.le_refl _, by simp⟩

theorem stopAll_tells : Tells stopAll fun _ => [.stoppedAll] := fun _ =>
  ⟨rfl, rfl, fun _ => UInt64.le_refl _, by simp⟩

/-! ### Lines -/

section Programs
variable {call : String → List Arg → Action Arg} {callLog : String → List Arg → Log}

mutual

theorem eval_tells (hcall : ∀ name args, Tells (call name args) (callLog name args)) :
    ∀ e : Expr, Tells (eval call e) (evalLog call callLog e)
  | .num _          => .pure _
  | .str _          => .pure _
  | .not e          => (eval_tells hcall e).bind_silent fun _ => .pure _
  | .negate e       => (eval_tells hcall e).bind_silent fun _ => .pure _
  | .call name args => (evalAll_tells hcall args).bind fun _ => hcall name _
  | .fault _        => .throw _

theorem evalAll_tells (hcall : ∀ name args, Tells (call name args) (callLog name args)) :
    ∀ es : List Expr, Tells (evalAll call es) (evalAllLog call callLog es)
  | []      => .pure _
  | e :: es =>
    (eval_tells hcall e).bind fun _ => (evalAll_tells hcall es).bind_silent fun _ => .pure _

end

theorem runStatement_tells (hcall : ∀ name args, Tells (call name args) (callLog name args))
    (s : Statement) : Tells (runStatement call s) (statementLog call callLog s) := by
  cases s with
  | define name body =>
      exact (tells_silent fun c => define_beside c name body).bind_silent fun _ => .pure _
  | remove name => exact (tells_silent fun c => remove_beside c name).bind_silent fun _ => .pure _
  | removeAll => exact (tells_silent removeAll_beside).bind_silent fun _ => .pure _
  | list =>
      exact (tells_silent fun c => onHost_beside c Host.printListing_clock).bind_silent
        fun _ => .pure _
  | usage => exact (tells_silent printUsage_beside).bind_silent fun _ => .pure _
  | tasks => exact (tells_silent printTasks_beside).bind_silent fun _ => .pure _
  | start name interval =>
      cases interval with
      | none => exact (start_tells name 0).bind_silent fun _ => .pure _
      | some e =>
          exact (eval_tells hcall e).bind fun _ =>
            (start_tells name _).bind_silent fun _ => .pure _
  | stop id =>
      cases id with
      | none => exact stopAll_tells.bind_silent fun _ => .pure _
      | some e =>
          exact (eval_tells hcall e).bind fun _ => (stop_tells _).bind_silent fun _ => .pure _
  | print parts =>
      refine (evalAll_tells hcall parts).bind_silent fun vs => ?_
      exact (tells_silent fun c => printLine_beside c _).bind_silent fun _ => .pure _
  | value e => exact (eval_tells hcall e).bind_silent fun _ => .pure _
  | fault fault => exact .throw _

theorem runProgram_tells (hcall : ∀ name args, Tells (call name args) (callLog name args))
    (p : Program) (last : Arg) : Tells (runProgram call last p) (programLog call callLog p) := by
  induction p generalizing last with
  | nil => exact .pure _
  | cons s ss ih => exact (runStatement_tells hcall s).bind fun v => ih _

theorem runText_tells (hcall : ∀ name args, Tells (call name args) (callLog name args))
    (line : String) : Tells (runText call line) (textLog call callLog line) := by
  unfold runText textLog
  cases tokenize line with
  | error fault => exact .throw _
  | ok ts => exact runProgram_tells hcall _ _

theorem nested_tells {action : Action Arg} {log : Log} (h : Tells action log) :
    Tells (nested action) fun c => log { c with depth := c.depth + 1 } := by
  intro c
  obtain ⟨hfunctions, htasks, hlatest, hstarted⟩ := h { c with depth := c.depth + 1 }
  rw [endState_nested]
  exact ⟨hfunctions, htasks, hlatest, hstarted⟩

theorem invoke_tells {run : String → Action Arg} {runLog : String → Log}
    (hrun : ∀ body, Tells (run body) (runLog body)) (name : String) (args : List Arg) :
    Tells (invoke run name args) (invokeLog runLog name args) := by
  intro c
  rw [invoke_eq]
  unfold invokeLog
  cases hf : c.functions.lookup? name with
  | some f => exact callFunction_follows (fun hs => hs name f hf) args
  | none =>
  cases c.host.storage.body? name with
  | none => exact .refl c
  | some body =>
  cases args with
  | nil => exact hrun body c
  | cons arg args => exact .refl c

end Programs

theorem callProgram_tells (levels : Nat) (name : String) (args : List Arg) :
    Tells (callProgram levels name args) (callLog levels name args) := by
  induction levels generalizing name args with
  | zero => exact invoke_tells (fun _ => .throw _) name args
  | succ levels ih => exact invoke_tells (fun body => nested_tells (runText_tells ih body)) name args

/-- **The log of a line is exact.**  The tasks that the line leaves, whether it fails or not, are
those that it found with the log replayed; and each reading at which the log says that a macro was
started is one that the clock has reached. -/
theorem execute_tells (line : String) : Tells (execute line) (executeLog line) := by
  intro c
  show Follows c _ (endState (runLine (call (maxDepth - c.depth)) line c))
  rw [runLine_eq_runText, call_eq_callProgram]
  exact runText_tells (callProgram_tells _) line c

end BoardConsole.Console
