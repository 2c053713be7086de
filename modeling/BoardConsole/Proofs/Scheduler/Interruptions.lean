import BoardConsole.Proofs.Scheduler.Attempts
import Mathlib

/-!
# The background scheduler — Which interruptions are counted

Two kinds of sleep can be interrupted: toward a deadline, and for a back-off.  Both go on with what
remains, but only the interruptions of the first kind are counted; those of a back-off are absorbed
without a trace.

* `counted_settleWith`, `counted_settleAll`: what one step counts, and what a run does.
* `interruptions_counted_iff`: the counter holds all interrupted calls exactly if the number of those
  of the back-offs is a multiple of the size of a word, as where there are none.
-/

namespace BoardConsole.Scheduler
open Interpreter

/-- The step slept a back-off. -/
def Settled.backsOff (settled : Settled) : Bool :=
  match settled.step.after with
  | .backedOff _ => true
  | _            => false

/-- The calls to sleep of some steps that were interrupted. -/
def interruptedCalls (done : List Settled) : Nat :=
  (done.flatMap Settled.calls).countP SleepCall.isInterrupted

theorem interruptedCalls_cons (settled : Settled) (done : List Settled) :
    interruptedCalls (settled :: done)
      = settled.calls.countP SleepCall.isInterrupted + interruptedCalls done := by
  rw [interruptedCalls, List.flatMap_cons, List.countP_append]
  rfl

theorem interruptedCalls_filter_cons (p : Settled → Bool) (settled : Settled)
    (done : List Settled) :
    interruptedCalls ((settled :: done).filter p)
      = (if p settled then settled.calls.countP SleepCall.isInterrupted else 0)
        + interruptedCalls (done.filter p) := by
  rw [List.filter_cons]
  split
  · exact interruptedCalls_cons _ _
  · exact (Nat.zero_add _).symm

/-- Every interrupted call is one of a back-off, or it is none. -/
theorem interruptedCalls_eq_add (done : List Settled) :
    interruptedCalls done = interruptedCalls (done.filter Settled.backsOff)
      + interruptedCalls (done.filter fun settled => !settled.backsOff) := by
  induction done with
  | nil => rfl
  | cons settled done ih =>
      rw [interruptedCalls_cons, interruptedCalls_filter_cons, interruptedCalls_filter_cons, ih]
      cases settled.backsOff with
      | true =>
          simp only [Bool.not_true, Bool.false_eq_true, if_true, if_false]
          omega
      | false =>
          simp only [Bool.not_false, Bool.false_eq_true, if_true, if_false]
          omega

/-- The interruptions of one sleep fit the word that they are counted in. -/
def Settled.CountsFit (settled : Settled) : Prop :=
  settled.calls.countP SleepCall.isInterrupted < UInt32.size

instance (settled : Settled) : Decidable settled.CountsFit := inferInstanceAs (Decidable (_ < _))

theorem toUInt64_interruptions {d : Duration} {script : List Interruption}
    (h : (sleepCalls d script).countP SleepCall.isInterrupted < UInt32.size) :
    (sleepFor d script).interruptions.toUInt64
      = .ofNat ((sleepCalls d script).countP SleepCall.isInterrupted) := by
  rw [interruptions_sleepCalls]
  exact UInt32.toUInt64_ofNat' h

/-- **What one step counts**: the interruptions of its sleep, unless that was a back-off. -/
theorem counted_settleWith {sleeper : Sleeper} {s : Scheduler} {asked : List Duration}
    {deadline : Deadline} (hfit : (settleWith sleeper s asked deadline).CountsFit) :
    (settleWith sleeper s asked deadline).step.scheduler.stats.interruptedSleeps
      = s.stats.interruptedSleeps + .ofNat (if !(settleWith sleeper s asked deadline).backsOff then
          (settleWith sleeper s asked deadline).calls.countP SleepCall.isInterrupted else 0) := by
  cases hzero : deadline.isImmediate with
  | false =>
      have hpause : s.pause deadline = deadline.toDuration := if_pos hzero
      rw [Settled.CountsFit, settleWith, hpause] at hfit
      simp [settleWith, settle_long hzero, hpause, Settled.backsOff, toUInt64_interruptions hfit]
  | true =>
      by_cases hbelow : increment s.streak < s.config.maxImmediateReruns
      · -- there is no sleep, so no call either
        have hcalls : (settleWith sleeper s asked deadline).calls = [] := by
          simp only [settleWith, pause, hzero, hbelow, Bool.true_eq_false, if_false, if_true]
          cases sleeper asked .zero <;> rfl
        rw [hcalls]
        simp [settleWith, settle_below hzero hbelow]
      · simp [settleWith, settle_full hzero hbelow, Settled.backsOff]

theorem counted_settleAll {sleeper : Sleeper} {s : Scheduler} {asked : List Duration}
    {deadlines : List Deadline}
    (hfit : ∀ settled ∈ (settleAll sleeper s asked deadlines).1, settled.CountsFit) :
    (settleAll sleeper s asked deadlines).2.stats.interruptedSleeps
      = s.stats.interruptedSleeps + .ofNat (interruptedCalls
          ((settleAll sleeper s asked deadlines).1.filter fun settled => !settled.backsOff)) := by
  induction deadlines generalizing s asked with
  | nil => simp [settleAll, interruptedCalls]
  | cons deadline deadlines ih =>
      rw [settleAll, List.forall_mem_cons] at hfit
      rw [settleAll]
      dsimp only
      rw [ih hfit.2, counted_settleWith hfit.1, interruptedCalls_filter_cons, UInt64.ofNat_add,
        UInt64.add_assoc]

theorem ofNat_eq_ofNat_add_iff (a b : Nat) :
    UInt64.ofNat b = UInt64.ofNat (a + b) ↔ UInt64.size ∣ a := by
  rw [← UInt64.toNat_inj, UInt64.toNat_ofNat', UInt64.toNat_ofNat']
  show b ≡ a + b [MOD UInt64.size] ↔ _
  rw [Nat.modEq_iff_dvd' (Nat.le_add_left b a), Nat.add_sub_cancel]

/-- **When every interruption is counted.**  Of a fresh scheduler, however often and wherever its
sleeps are interrupted, as long as those of each sleep fit the word that they are counted in, the
counter holds the interrupted calls of the sleeps toward a deadline.  So it holds all interrupted
calls exactly if the number of those of the back-offs is a multiple of the size of a word, as where
there are none. -/
theorem interruptions_counted_iff {ι : Type} [Interpreter ι] {sleeper : Sleeper}
    {config : SchedulerConfig} {n : Nat} {lock : ExecutionLock ι}
    (hfit : ∀ settled ∈ (attempts sleeper n (.fresh config) lock []).done, settled.CountsFit) :
    let run := attempts sleeper n (.fresh config) lock []
    (∀ settled ∈ run.done, settled.step.slept.requests = settled.calls.map SleepCall.request) ∧
      run.scheduler.stats.interruptedSleeps
        = .ofNat (interruptedCalls (run.done.filter fun settled => !settled.backsOff)) ∧
      (run.scheduler.stats.interruptedSleeps = .ofNat (interruptedCalls run.done) ↔
        UInt64.size ∣ interruptedCalls (run.done.filter Settled.backsOff)) := by
  intro run
  obtain ⟨hdone, hscheduler⟩ := attempts_eq sleeper n (.fresh config) lock []
  have hcounted : run.scheduler.stats.interruptedSleeps
      = .ofNat (interruptedCalls (run.done.filter fun settled => !settled.backsOff)) := by
    rw [hdone] at hfit
    rw [hdone, hscheduler, counted_settleAll hfit]
    exact UInt64.zero_add _
  refine ⟨fun settled hmem => ?_, hcounted, ?_⟩
  · rw [hdone] at hmem
    exact requests_settleAll _ _ _ _ hmem
  · rw [hcounted, interruptedCalls_eq_add run.done, ofNat_eq_ofNat_add_iff]

/-- A sleep toward a deadline of two milliseconds that is interrupted twice, and a back-off that is
interrupted once: two interruptions of three are counted. -/
theorem interruptions_counted_iff_both :
    let runner : ExecutionLock ScriptedRuns := .guard ⟨[.returned ⟨2⟩, .returned ⟨0⟩], false⟩
    let sleeper : Sleeper := fun asked _ =>
      if asked = [] then [.leaving (.ofMillis 1), .leaving ⟨500⟩] else [.leaving ⟨700⟩]
    let run := attempts sleeper 2 (.fresh ⟨"background", 1, .ofMillis 1⟩) runner []
    (∀ settled ∈ run.done, settled.CountsFit) ∧
      run.done.map (·.step.slept.requests)
        = [[.ofMillis 2, .ofMillis 1, ⟨500⟩], [.ofMillis 1, ⟨700⟩]] ∧
      run.scheduler.stats.interruptedSleeps = 2 ∧ interruptedCalls run.done = 3 ∧
      ¬ UInt64.size ∣ interruptedCalls (run.done.filter Settled.backsOff) := by
  intro runner sleeper run
  have hfit : ∀ settled ∈ run.done, settled.CountsFit := by decide
  obtain ⟨-, hcounted, hiff⟩ := interruptions_counted_iff hfit
  have hmissed : run.scheduler.stats.interruptedSleeps ≠ .ofNat (interruptedCalls run.done) := by
    rw [hcounted]
    decide
  exact ⟨hfit, by decide, hcounted.trans (by decide), by decide, fun hall => hmissed (hiff.mpr hall)⟩

/-- A back-off of a millisecond that is interrupted after half of it: the one interruption is not
counted. -/
theorem interruptions_counted_iff_backOff :
    let runner : ExecutionLock ScriptedRuns := .guard ⟨[.returned ⟨0⟩], true⟩
    let run := attempts (fun _ _ => [.leaving ⟨500000⟩]) 1
      (.fresh ⟨"background", 1, .ofMillis 1⟩) runner []
    run.done.map (·.step.slept.requests) = [[.ofMillis 1, ⟨500000⟩]] ∧
      interruptedCalls run.done = 1 ∧ run.scheduler.stats.interruptedSleeps = 0 := by
  decide

end BoardConsole.Scheduler
