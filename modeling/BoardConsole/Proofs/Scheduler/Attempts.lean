import BoardConsole.Proofs.Scheduler
import Mathlib

/-!
# The background scheduler — Attempts

A scheduler that is stepped again and again, by a caller that catches a run of the tasks that is
broken off and steps again.  What comes of it is settled by the deadlines that are reported, in
order, and by the sleeper; of the interpreter nothing else counts (`attempts_eq`).

* `endings`, `stateAfter`: the runs of the tasks by themselves, each of which goes on with the state
  that the one before it left.
* `Sleeper`: a sleeper, as the interruptions that its sleeps meet.
* `panics_leave_no_trace`: runs that are broken off change nothing of what the scheduler does in the
  others, and the state that they leave is the one that the next run has under the lock.
-/

namespace BoardConsole

/-! ### Runs of the tasks -/

/-- The run came to its end. -/
def Ending.hasReturned {α : Type} : Ending α → Bool
  | returned _ => true
  | panicked   => false

/-- What a run answered, if it came to its end. -/
def Ending.answer? {α : Type} : Ending α → Option α
  | returned a => some a
  | panicked   => none

namespace Interpreter
variable {ι : Type} [Interpreter ι]

/-- How `n` runs of the tasks end, each of which goes on with the state that the one before it
left. -/
def endings : (n : Nat) → ι → List (Ending Deadline)
  | 0, _         => []
  | n + 1, value =>
    (runBackgroundTasks value).1 :: endings n (runBackgroundTasks value).2

/-- The state that `n` runs of the tasks leave, broken off or not. -/
def stateAfter (n : Nat) (value : ι) : ι := (fun value => (runBackgroundTasks value).2)^[n] value

end Interpreter

/-- The deadlines that are reported by runs with these endings. -/
def reported (endings : List (Ending Deadline)) : List Deadline := endings.filterMap Ending.answer?

theorem reported_filter (endings : List (Ending Deadline)) :
    reported (endings.filter Ending.hasReturned) = reported endings := by
  induction endings with
  | nil => rfl
  | cons ending endings ih =>
      cases ending with
      | returned deadline => exact congrArg (deadline :: ·) ih
      | panicked => exact ih

theorem reported_returned (deadlines : List Deadline) :
    reported (deadlines.map .returned) = deadlines := by
  induction deadlines with
  | nil => rfl
  | cons deadline deadlines ih => exact congrArg (deadline :: ·) ih

theorem takeWhile_returned (deadlines : List Deadline) :
    (deadlines.map Ending.returned).takeWhile Ending.hasReturned = deadlines.map .returned := by
  induction deadlines with
  | nil => rfl
  | cons deadline deadlines ih => exact congrArg (.returned deadline :: ·) ih

theorem length_reported (endings : List (Ending Deadline)) :
    (reported endings).length = (endings.filter Ending.hasReturned).length := by
  induction endings with
  | nil => rfl
  | cons ending endings ih =>
      cases ending with
      | returned deadline => exact congrArg (· + 1) ih
      | panicked => exact ih

theorem Interpreter.length_endings {ι : Type} [Interpreter ι] (n : Nat) (value : ι) :
    (endings n value).length = n := by
  induction n generalizing value with
  | zero => rfl
  | succ n ih => exact congrArg (· + 1) (ih _)

/-- Any list of endings is that of some runs. -/
theorem Interpreter.endings_scripted (runs : List (Ending Deadline)) :
    endings runs.length (⟨runs, false⟩ : ScriptedRuns) = runs := by
  induction runs with
  | nil => rfl
  | cons run runs ih =>
      cases runs with
      | nil => rfl
      | cons next runs => exact congrArg (run :: ·) ih

theorem ExecutionLock.value_release {ι α : Type} (lock : ExecutionLock ι) (ending : Ending α) :
    (lock.release ending).value = lock.value := by
  cases ending <;> rfl

/-! ### Sleepers -/

/-- A sleeper whose sleeps all end, as the interruptions that a sleep of it meets. They may depend on
all that was asked of it before, and on how long the sleep is to be. -/
abbrev Sleeper := (asked : List Duration) → (d : Duration) → List Interruption

/-- A sleeper that meets the interruptions of a script, one with each call, up to its end. -/
def Sleeper.scripted (script : List Interruption) : Sleeper := fun asked _ =>
  script.drop asked.length

/-- The call was interrupted. -/
def SleepCall.isInterrupted (call : SleepCall) : Bool := call.remaining.isSome

/-- The calls of a sleep that meets these interruptions. -/
def sleepCalls (d : Duration) : List Interruption → List SleepCall
  | []      => if d.isZero then [] else [⟨d, none⟩]
  | i :: is =>
    if d.isZero then [] else ⟨d, some (i.remaining d)⟩ :: sleepCalls (i.remaining d) is

theorem requests_sleepCalls (d : Duration) (script : List Interruption) :
    (sleepFor d script).requests = (sleepCalls d script).map SleepCall.request := by
  induction script generalizing d with
  | nil => cases h : d.isZero <;> simp [sleepFor, sleepCalls, h]
  | cons i is ih => cases h : d.isZero <;> simp [sleepFor, sleepCalls, h, ih]

theorem interruptions_sleepCalls (d : Duration) (script : List Interruption) :
    (sleepFor d script).interruptions
      = .ofNat ((sleepCalls d script).countP SleepCall.isInterrupted) := by
  induction script generalizing d with
  | nil => cases h : d.isZero <;> simp [sleepFor, sleepCalls, h, SleepCall.isInterrupted]
  | cons i is ih =>
      cases h : d.isZero with
      | true => simp [sleepFor, sleepCalls, h]
      | false =>
          simp only [sleepFor, sleepCalls, h, Bool.false_eq_true, if_false, ih]
          rw [List.countP_cons_of_pos rfl, UInt32.ofNat_add]
          rfl

/-- A sleep makes one call for each interruption that it meets, and one more that meets none, so it
has used up no more of a script than it made calls. -/
theorem unused_sleepFor (d : Duration) (script : List Interruption) :
    (sleepFor d script).unused = script.drop (sleepFor d script).requests.length := by
  induction script generalizing d with
  | nil => cases h : d.isZero <;> simp [sleepFor, h]
  | cons i is ih => cases h : d.isZero <;> simp [sleepFor, h, ih]

namespace Scheduler
open Interpreter

/-! ### One step -/

/-- How long a scheduler sleeps when a deadline has been reported. -/
def pause (s : Scheduler) (deadline : Deadline) : Duration :=
  if deadline.isImmediate = false then deadline.toDuration
  else if increment s.streak < s.config.maxImmediateReruns then .zero
  else s.config.zeroDeadlineBackoff

theorem slept_settle (s : Scheduler) (deadline : Deadline) (script : List Interruption) :
    (s.settle deadline script).slept = sleepFor (s.pause deadline) script := by
  cases hzero : deadline.isImmediate with
  | false => simp [settle_long hzero, pause, hzero]
  | true =>
      by_cases hbelow : increment s.streak < s.config.maxImmediateReruns
      · rw [settle_below hzero hbelow]
        cases script <;> simp [pause, hzero, hbelow, sleepFor, Duration.zero, Duration.isZero]
      · simp [settle_full hzero hbelow, pause, hzero, hbelow]

section Attempts
variable {ι : Type} [Interpreter ι] {s : Scheduler} {lock : ExecutionLock ι} {deadline : Deadline}

theorem step_of_returned (h : (runBackgroundTasks lock.value).1 = .returned deadline)
    (script : List Interruption) :
    s.step lock script = (.returned (s.settle deadline script),
      ⟨(runBackgroundTasks lock.value).2, false, false⟩) := by
  simp only [step, ExecutionLock.hold, ExecutionLock.holding, ExecutionLock.acquire, h,
    ExecutionLock.release]

theorem step_of_panicked (h : (runBackgroundTasks lock.value).1 = .panicked)
    (script : List Interruption) :
    s.step lock script = (.panicked, ⟨(runBackgroundTasks lock.value).2, false, true⟩) := by
  simp only [step, ExecutionLock.hold, ExecutionLock.holding, ExecutionLock.acquire, h,
    ExecutionLock.release]

/-! ### Attempts -/

/-- A completed step, and the calls of its sleep. -/
structure Settled where
  step  : Step
  calls : List SleepCall

/-- What several attempts come to. -/
structure Attempts (ι : Type) where
  /-- The steps that were completed, in order. -/
  done      : List Settled
  scheduler : Scheduler
  lock      : ExecutionLock ι

/-- How long a step under this lock sleeps. -/
def pauseUnder (s : Scheduler) (lock : ExecutionLock ι) : Duration :=
  match (lock.hold runBackgroundTasks).1 with
  | .returned deadline => s.pause deadline
  | .panicked          => .zero

theorem pauseUnder_of_returned (h : (runBackgroundTasks lock.value).1 = .returned deadline) :
    s.pauseUnder lock = s.pause deadline := by
  simp only [pauseUnder, ExecutionLock.hold, ExecutionLock.holding, ExecutionLock.acquire, h]

/-- `n` attempts at a step, by a caller that catches a run that is broken off: it completes no step,
and the next attempt follows it. -/
def attempts (sleeper : Sleeper) : (n : Nat) → Scheduler → ExecutionLock ι →
    (asked : List Duration) → Attempts ι
  | 0, s, lock, _ => ⟨[], s, lock⟩
  | n + 1, s, lock, asked =>
    let pause := s.pauseUnder lock
    match s.step lock (sleeper asked pause) with
    | (.panicked, lock) => attempts sleeper n s lock asked
    | (.returned step, lock) =>
      let rest := attempts sleeper n step.scheduler lock (asked ++ step.slept.requests)
      { rest with done := ⟨step, sleepCalls pause (sleeper asked pause)⟩ :: rest.done }

/-- How a deadline is settled with a sleeper that was asked for something before. -/
def settleWith (sleeper : Sleeper) (s : Scheduler) (asked : List Duration) (deadline : Deadline) :
    Settled where
  step  := s.settle deadline (sleeper asked (s.pause deadline))
  calls := sleepCalls (s.pause deadline) (sleeper asked (s.pause deadline))

/-- How several deadlines are settled, and the scheduler after them. -/
def settleAll (sleeper : Sleeper) : Scheduler → (asked : List Duration) → List Deadline →
    List Settled × Scheduler
  | s, _, [] => ([], s)
  | s, asked, deadline :: deadlines =>
    let first := settleWith sleeper s asked deadline
    let rest := settleAll sleeper first.step.scheduler (asked ++ first.step.slept.requests) deadlines
    (first :: rest.1, rest.2)

theorem length_settleAll (sleeper : Sleeper) (s : Scheduler) (asked : List Duration)
    (deadlines : List Deadline) :
    (settleAll sleeper s asked deadlines).1.length = deadlines.length := by
  induction deadlines generalizing s asked with
  | nil => rfl
  | cons deadline deadlines ih => exact congrArg (· + 1) (ih _ _)

/-- The calls of every step ask for what the step asks for. -/
theorem requests_settleAll (sleeper : Sleeper) (s : Scheduler) (asked : List Duration)
    (deadlines : List Deadline) {settled : Settled}
    (h : settled ∈ (settleAll sleeper s asked deadlines).1) :
    settled.step.slept.requests = settled.calls.map SleepCall.request := by
  induction deadlines generalizing s asked with
  | nil => exact absurd h List.not_mem_nil
  | cons deadline deadlines ih =>
      rcases List.mem_cons.mp h with rfl | hrest
      · rw [settleWith]
        dsimp only
        rw [slept_settle, requests_sleepCalls]
      · exact ih _ _ hrest

/-- **Only the deadlines count** that the runs report, and their order. -/
theorem attempts_eq (sleeper : Sleeper) (n : Nat) (s : Scheduler) (lock : ExecutionLock ι)
    (asked : List Duration) :
    (attempts sleeper n s lock asked).done
        = (settleAll sleeper s asked (reported (endings n lock.value))).1 ∧
      (attempts sleeper n s lock asked).scheduler
        = (settleAll sleeper s asked (reported (endings n lock.value))).2 := by
  induction n generalizing s lock asked with
  | zero => exact ⟨rfl, rfl⟩
  | succ n ih =>
      rw [endings, attempts]
      cases hrun : (runBackgroundTasks lock.value).1 with
      | panicked =>
          rw [step_of_panicked hrun]
          exact ih _ _ _
      | returned deadline =>
          rw [step_of_returned hrun, pauseUnder_of_returned hrun]
          obtain ⟨hdone, hscheduler⟩ := ih (settleWith sleeper s asked deadline).step.scheduler
            ⟨(runBackgroundTasks lock.value).2, false, false⟩
            (asked ++ (settleWith sleeper s asked deadline).step.slept.requests)
          exact ⟨congrArg (settleWith sleeper s asked deadline :: ·) hdone, hscheduler⟩

/-- **The lock is given back by every attempt**, with the state that its run left; a run that is
broken off poisons it. -/
theorem lock_attempts (sleeper : Sleeper) (n : Nat) (s : Scheduler) (lock : ExecutionLock ι)
    (asked : List Duration) :
    (attempts sleeper (n + 1) s lock asked).lock
      = ⟨stateAfter (n + 1) lock.value, false,
        !(runBackgroundTasks (stateAfter n lock.value)).1.hasReturned⟩ := by
  induction n generalizing s lock asked with
  | zero =>
      rw [attempts]
      cases hrun : (runBackgroundTasks lock.value).1 with
      | panicked =>
          rw [step_of_panicked hrun]
          simp [attempts, stateAfter, hrun, Ending.hasReturned]
      | returned deadline =>
          rw [step_of_returned hrun]
          simp [attempts, stateAfter, hrun, Ending.hasReturned]
  | succ n ih =>
      rw [attempts]
      cases hrun : (runBackgroundTasks lock.value).1 with
      | panicked =>
          rw [step_of_panicked hrun]
          exact ih _ _ _
      | returned deadline =>
          rw [step_of_returned hrun]
          exact ih _ _ _

/-- **Steps are attempts up to the first run that is broken off**, by a sleeper that meets the
interruptions of a script. -/
theorem steps_eq_attempts (script : List Interruption) (n : Nat) (s : Scheduler)
    (lock : ExecutionLock ι) (asked : List Duration) :
    let run := steps n s lock (script.drop asked.length)
    let returning := ((endings n lock.value).takeWhile Ending.hasReturned).length
    let tries := attempts (.scripted script) returning s lock asked
    run.panicked = decide (returning < n) ∧ run.scheduler = tries.scheduler ∧
      run.afters = tries.done.map (·.step.after) ∧
      run.requests = tries.done.flatMap (·.step.slept.requests) := by
  induction n generalizing s lock asked with
  | zero => exact ⟨rfl, rfl, rfl, rfl⟩
  | succ n ih =>
      dsimp only
      rw [steps, endings]
      cases hrun : (runBackgroundTasks lock.value).1 with
      | panicked =>
          rw [step_of_panicked hrun, List.takeWhile_cons_of_neg (by simp [Ending.hasReturned])]
          exact ⟨rfl, rfl, rfl, rfl⟩
      | returned deadline =>
          have hunused : (s.settle deadline (script.drop asked.length)).slept.unused
              = script.drop
                (asked ++ (s.settle deadline (script.drop asked.length)).slept.requests).length := by
            rw [slept_settle, unused_sleepFor, List.drop_drop, List.length_append]
          obtain ⟨hpanicked, hscheduler, hafters, hrequests⟩ :=
            ih (s.settle deadline (script.drop asked.length)).scheduler
              ⟨(runBackgroundTasks lock.value).2, false, false⟩
              (asked ++ (s.settle deadline (script.drop asked.length)).slept.requests)
          rw [step_of_returned hrun, List.takeWhile_cons_of_pos rfl, List.length_cons, attempts,
            pauseUnder_of_returned hrun, Sleeper.scripted, step_of_returned hrun]
          dsimp only
          rw [hunused, hpanicked, hscheduler, hafters, hrequests]
          exact ⟨by simp, rfl, rfl, rfl⟩

/-- **Runs that are broken off leave no trace** in what the scheduler does.  Its completed steps are
those of the same runs without them: what each step did, the calls of its sleep, and all counters and
the streak after it.  Whoever takes the lock next has the state that the last run left, be the lock
poisoned or not. -/
theorem panics_leave_no_trace {κ : Type} [Interpreter κ] (sleeper : Sleeper) (s : Scheduler)
    {n m : Nat} {lock : ExecutionLock ι} {calm : ExecutionLock κ}
    (hcalm : endings m calm.value = (endings n lock.value).filter Ending.hasReturned) :
    (attempts sleeper n s lock []).done = (attempts sleeper m s calm []).done ∧
      (attempts sleeper n s lock []).scheduler = (attempts sleeper m s calm []).scheduler ∧
      (attempts sleeper n s lock []).done.length = m ∧
      ∀ k, let last := runBackgroundTasks (stateAfter k lock.value)
        let lock' := (attempts sleeper (k + 1) s lock []).lock
        lock'.isPoisoned = !last.1.hasReturned ∧
          ∀ {α : Type} (action : ι → Ending α × ι),
            (lock'.hold action).1 = (action last.2).1 ∧
              (lock'.hold action).2.value = (action last.2).2 := by
  obtain ⟨hdone, hscheduler⟩ := attempts_eq sleeper n s lock []
  obtain ⟨hdone', hscheduler'⟩ := attempts_eq sleeper m s calm []
  rw [hcalm, reported_filter] at hdone' hscheduler'
  refine ⟨hdone.trans hdone'.symm, hscheduler.trans hscheduler'.symm, ?_, fun k => ?_⟩
  · rw [hdone, length_settleAll, length_reported, ← hcalm, length_endings]
  · intro last lock'
    have hlock : lock' = ⟨last.2, false, !last.1.hasReturned⟩ := by
      rw [show lock' = _ from lock_attempts sleeper k s lock [], stateAfter,
        Function.iterate_succ_apply']
      rfl
    rw [hlock]
    exact ⟨rfl, fun action => ⟨rfl, ExecutionLock.value_release _ _⟩⟩

/-- Runs that are broken off in the middle of a streak, and a back-off that is interrupted. -/
theorem panics_leave_no_trace_midStreak :
    let runs : List (Ending Deadline) :=
      [.returned ⟨0⟩, .panicked, .returned ⟨0⟩, .panicked, .panicked, .returned ⟨5⟩, .returned ⟨0⟩]
    let s : Scheduler := .fresh ⟨"background", 2, .ofMillis 1⟩
    let sleeper : Sleeper := fun asked _ => if asked = [] then [.leaving ⟨7⟩] else []
    let lock : ExecutionLock ScriptedRuns := .guard ⟨runs, false⟩
    let calm : ExecutionLock ScriptedRuns := .guard ⟨runs.filter Ending.hasReturned, false⟩
    endings 4 calm.value = (endings 7 lock.value).filter Ending.hasReturned ∧
      (attempts sleeper 7 s lock []).done = (attempts sleeper 4 s calm []).done ∧
      (attempts sleeper 4 s calm []).done.map (·.step.after)
        = [.yielded, .backedOff (.ofMillis 1), .slept ⟨5⟩, .yielded] ∧
      (attempts sleeper 4 s calm []).done.flatMap (·.calls)
        = [⟨.ofMillis 1, some ⟨7⟩⟩, ⟨⟨7⟩, none⟩, ⟨.ofMillis 5, none⟩] ∧
      (attempts sleeper 7 s lock []).scheduler.stats = ⟨4, 3, 1, 0, 5⟩ ∧
      (attempts sleeper 7 s lock []).scheduler.streak = 1 ∧
      (attempts sleeper 5 s lock []).lock.isPoisoned = true ∧
      ((attempts sleeper 5 s lock []).lock.hold runBackgroundTasks).1 = .returned ⟨5⟩ := by
  intro runs s sleeper lock calm
  have hruns : endings 7 lock.value = runs := endings_scripted runs
  have hcalm : endings 4 calm.value = (endings 7 lock.value).filter Ending.hasReturned := by
    rw [hruns]
    exact endings_scripted (runs.filter Ending.hasReturned)
  obtain ⟨hdone, hscheduler, -, hlock⟩ := panics_leave_no_trace sleeper s hcalm
  obtain ⟨hpoisoned, hheld⟩ := hlock 4
  refine ⟨hcalm, hdone, by decide, by decide, ?_, ?_, hpoisoned, (hheld runBackgroundTasks).1⟩
  · rw [hscheduler]
    decide
  · rw [hscheduler]
    decide

end Attempts

end Scheduler

end BoardConsole
