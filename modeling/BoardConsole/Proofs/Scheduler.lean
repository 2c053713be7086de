import BoardConsole.Config.Read
import Mathlib

/-!
# The background scheduler — Sleeping in full

A sleep is a chain of calls: the first asks for the whole of it, and each one after an interruption
for the time that was reported as remaining, until none is (`Resumes`).  What a call takes is not
known; but none takes less than it was asked to, save for what it reports as remaining, and that is
what the next one is asked to take.  So the sum of all is at least the whole, however often the
sleep was interrupted and whatever was reported (`Resumes.nanos_le`).

* `Scheduler.settle_below`, `Scheduler.settle_full`, `Scheduler.settle_long`: what follows a deadline,
  by what it makes of the streak.
* `Scheduler.step_sleeps_in_full`: a step sleeps the whole of a deadline that is not zero, and the
  whole of the back-off where a streak of zero deadlines is full, before the interpreter is run again.
-/

namespace BoardConsole

/-! ### The calls of a sleep -/

theorem Duration.isZero_eq_false {d : Duration} : d.isZero = false ↔ 0 < d.nanos := by
  simp [isZero, Nat.pos_iff_ne_zero]

theorem Deadline.isZero_toDuration {d : Deadline} (h : d.isImmediate = false) :
    d.toDuration.isZero = false := by
  have hne : d.millis ≠ 0 := by simpa [isImmediate] using h
  have hpos : 0 < d.millis.toNat := UInt64.lt_iff_toNat_lt.mp (UInt64.pos_iff_ne_zero.mpr hne)
  rw [Duration.isZero_eq_false]
  exact Nat.mul_pos hpos (by decide)

/-- A call to sleep: what it was asked to take, and what it reported as remaining where it was
interrupted. -/
structure SleepCall where
  request   : Duration
  remaining : Option Duration
deriving DecidableEq, Repr

/-- A call that took some time was as long as asked, save for what it reported as remaining. -/
def SleepCall.Keeps (call : SleepCall) (took : Duration) : Prop :=
  call.request.nanos ≤ took.nanos + (call.remaining.getD .zero).nanos

/-- The least that a call can have taken. -/
def SleepCall.least (call : SleepCall) : Duration :=
  call.request.minus (call.remaining.getD .zero)

theorem SleepCall.keeps_least (call : SleepCall) : call.Keeps call.least :=
  Nat.sub_le_iff_le_add.mp (Nat.le_refl _)

/-- The calls of a sleep that meets some interruptions: each asks for all that remains. -/
inductive Resumes : Duration → List Interruption → List SleepCall → Prop where
  | nothingLeft {d : Duration} : d.isZero = true → Resumes d [] []
  | completed {d : Duration} : d.isZero = false → Resumes d [] [⟨d, none⟩]
  | interrupted {d : Duration} {i : Interruption} {is : List Interruption}
      {calls : List SleepCall} : d.isZero = false → Resumes (i.remaining d) is calls →
      Resumes d (i :: is) (⟨d, some (i.remaining d)⟩ :: calls)

/-- **The calls of a sleep take the whole of it.**  What one call leaves is what the next ones take,
by induction. -/
theorem Resumes.nanos_le {d : Duration} {used : List Interruption} {calls : List SleepCall}
    (h : Resumes d used calls) {took : List Duration}
    (htook : List.Forall₂ SleepCall.Keeps calls took) :
    d.nanos ≤ (took.map Duration.nanos).sum := by
  induction h generalizing took with
  | nothingLeft hzero =>
      rw [Duration.isZero, beq_iff_eq] at hzero
      rw [hzero]
      exact Nat.zero_le _
  | completed hpos =>
      obtain ⟨t, more, hkeeps, -, rfl⟩ := List.forall₂_cons_left_iff.mp htook
      rw [List.map_cons, List.sum_cons]
      exact Nat.le_trans hkeeps (Nat.add_le_add_left (Nat.zero_le _) _)
  | interrupted hpos hrest ih =>
      obtain ⟨t, more, hkeeps, hmore, rfl⟩ := List.forall₂_cons_left_iff.mp htook
      rw [List.map_cons, List.sum_cons]
      exact Nat.le_trans hkeeps (Nat.add_le_add_left (ih hmore) _)

/-- A sleep in the calls it made: it met the first interruptions of a script, and counts of each
request the part that did not remain. -/
structure Slept.MadeOf (slept : Slept) (d : Duration) (script used : List Interruption)
    (calls : List SleepCall) : Prop where
  script        : script = used ++ slept.unused
  interruptions : slept.interruptions = .ofNat used.length
  resumes       : Resumes d used calls
  requests      : slept.requests = calls.map SleepCall.request
  total         : slept.total.nanos = ((calls.map SleepCall.least).map Duration.nanos).sum

/-- Every sleep is made of calls that resume it. -/
theorem exists_madeOf (d : Duration) (script : List Interruption) :
    ∃ used calls, (sleepFor d script).MadeOf d script used calls := by
  induction script generalizing d with
  | nil =>
      rw [sleepFor]
      cases hzero : d.isZero with
      | true => exact ⟨[], [], rfl, rfl, .nothingLeft hzero, rfl, rfl⟩
      | false => exact ⟨[], [⟨d, none⟩], rfl, rfl, .completed hzero, rfl, rfl⟩
  | cons i is ih =>
      rw [sleepFor]
      cases hzero : d.isZero with
      | true => exact ⟨[], [], rfl, rfl, .nothingLeft hzero, rfl, rfl⟩
      | false =>
          obtain ⟨used, calls, hscript, hinterruptions, hresumes, hrequests, htotal⟩ :=
            ih (i.remaining d)
          have hmore : (sleepFor (i.remaining d) is).interruptions + 1 = .ofNat (used.length + 1) := by
            rw [hinterruptions, UInt32.ofNat_add]
            rfl
          refine ⟨i :: used, ⟨d, some (i.remaining d)⟩ :: calls, congrArg (i :: ·) hscript,
            hmore, .interrupted hzero hresumes,
            congrArg (d :: ·) hrequests, ?_⟩
          rw [List.map_cons, List.map_cons, List.sum_cons, ← htotal]
          rfl

/-- A sleep that takes the whole of a duration, whatever its calls take. -/
structure SleptInFull (d : Duration) (script : List Interruption) (slept : Slept)
    (calls : List SleepCall) : Prop where
  made   : ∃ used, slept.MadeOf d script used calls
  inFull : ∀ took, List.Forall₂ SleepCall.Keeps calls took →
    d.nanos ≤ (took.map Duration.nanos).sum
  total  : d.nanos ≤ slept.total.nanos

/-- **No sleep ends early.** -/
theorem exists_sleptInFull (d : Duration) (script : List Interruption) :
    ∃ calls, SleptInFull d script (sleepFor d script) calls := by
  obtain ⟨used, calls, hmade⟩ := exists_madeOf d script
  have hinFull : ∀ took, List.Forall₂ SleepCall.Keeps calls took →
      d.nanos ≤ (took.map Duration.nanos).sum := fun took htook => hmade.resumes.nanos_le htook
  refine ⟨calls, ⟨used, hmade⟩, hinFull, ?_⟩
  rw [hmade.total]
  refine hinFull _ ?_
  rw [List.forall₂_map_right_iff, List.forall₂_same]
  exact fun call _ => call.keeps_least

namespace Scheduler

/-! ### One step -/

theorem toNat_increment {n limit : UInt32} (h : n < limit) :
    (increment n).toNat = n.toNat + 1 := by
  have hlt := UInt32.lt_iff_toNat_lt.mp h
  have hlimit := limit.toNat_lt
  have hne : n ≠ 0xFFFFFFFF := by
    rintro rfl
    have : (0xFFFFFFFF : UInt32).toNat = 2 ^ 32 - 1 := rfl
    omega
  rw [increment, if_neg hne, UInt32.toNat_add, UInt32.toNat_one]
  omega

/-- What follows a zero that leaves the streak below the limit. -/
theorem settle_below {s : Scheduler} {deadline : Deadline} (hzero : deadline.isImmediate = true)
    (hbelow : increment s.streak < s.config.maxImmediateReruns) (script : List Interruption) :
    s.settle deadline script =
      { after := .yielded
        slept := ⟨[], 0, .zero, script⟩
        scheduler :=
          { s with
            stats := { s.stats with
              iterations      := s.stats.iterations + 1
              immediateReruns := s.stats.immediateReruns + 1 }
            streak := increment s.streak } } := by
  simp only [settle, hzero, if_true, rerun, if_pos hbelow]

/-- What follows a zero that fills the streak. -/
theorem settle_full {s : Scheduler} {deadline : Deadline} (hzero : deadline.isImmediate = true)
    (hfull : ¬ increment s.streak < s.config.maxImmediateReruns) (script : List Interruption) :
    s.settle deadline script =
      { after := .backedOff s.config.zeroDeadlineBackoff
        slept := sleepFor s.config.zeroDeadlineBackoff script
        scheduler :=
          { s with
            stats := { s.stats with
              iterations      := s.stats.iterations + 1
              immediateReruns := s.stats.immediateReruns + 1
              backoffs        := s.stats.backoffs + 1 }
            streak := 0 } } := by
  simp only [settle, hzero, if_true, rerun, if_neg hfull]

/-- What follows a deadline that is not zero. -/
theorem settle_long {s : Scheduler} {deadline : Deadline} (hlong : deadline.isImmediate = false)
    (script : List Interruption) :
    s.settle deadline script =
      { after := .slept deadline
        slept := sleepFor deadline.toDuration script
        scheduler :=
          { s with
            stats := { s.stats with
              iterations        := s.stats.iterations + 1
              interruptedSleeps := s.stats.interruptedSleeps
                + (sleepFor deadline.toDuration script).interruptions.toUInt64
              sleptMillis       := s.stats.sleptMillis + deadline.millis }
            streak := 0 } } := by
  simp only [settle, hlong, Bool.false_eq_true, if_false, sleepToward]

/-- **A deadline is slept in full.**  Where the interpreter reports a deadline, a step ends with the
interpreter as it was then, and all of the deadline has been slept, from the first request for the
whole of it and through every interruption; and so has the back-off, where the deadline is zero and
the streak is full. -/
theorem step_sleeps_in_full {ι : Type} [Interpreter ι] (s : Scheduler)
    {lock lock' : ExecutionLock ι} {deadline : Deadline}
    (hrun : lock.hold Interpreter.runBackgroundTasks = (.returned deadline, lock'))
    (script : List Interruption) :
    ∃ done, s.step lock script = (.returned done, lock') ∧
      (0 < deadline.millis → done.after = .slept deadline ∧
        ∃ calls, SleptInFull deadline.toDuration script done.slept calls) ∧
      (deadline.millis = 0 → increment s.streak < s.config.maxImmediateReruns →
        done.after = .yielded ∧ done.slept.requests = []) ∧
      (deadline.millis = 0 → s.config.maxImmediateReruns ≤ increment s.streak →
        done.after = .backedOff s.config.zeroDeadlineBackoff ∧
          ∃ calls, SleptInFull s.config.zeroDeadlineBackoff script done.slept calls) := by
  refine ⟨s.settle deadline script, ?_, fun hpos => ?_, fun hzero hbelow => ?_,
    fun hzero hfull => ?_⟩
  · rw [step, hrun]
  · have hlong : deadline.isImmediate = false := by
      simpa [Deadline.isImmediate, UInt64.pos_iff_ne_zero] using hpos
    rw [settle_long hlong]
    exact ⟨rfl, exists_sleptInFull _ _⟩
  · have himmediate : deadline.isImmediate = true := by simpa [Deadline.isImmediate] using hzero
    rw [settle_below himmediate hbelow]
    exact ⟨rfl, rfl⟩
  · have himmediate : deadline.isImmediate = true := by simpa [Deadline.isImmediate] using hzero
    rw [settle_full himmediate (UInt32.not_lt.mpr hfull)]
    exact ⟨rfl, exists_sleptInFull _ _⟩

/-- A runner that wants a quarter of a second, and a sleep towards it that is interrupted with more
remaining than was asked for, then after ten milliseconds, and then with nothing remaining. -/
theorem step_sleeps_in_full_interrupted :
    let runner : ExecutionLock ScriptedRuns := .guard ⟨[.returned ⟨250⟩], true⟩
    let script : List Interruption :=
      [.leaving (.ofMillis 300), .striking (.ofMillis 10), .leaving .zero, .leaving .zero]
    runner.hold Interpreter.runBackgroundTasks = (.returned ⟨250⟩, runner) ∧
      ∃ done, (fresh Config.standard.scheduler).step runner script = (.returned done, runner) ∧
        done.slept.requests = [.ofMillis 250, .ofMillis 300, .ofMillis 290] ∧
        done.slept.unused = [.leaving .zero] ∧
        (Deadline.toDuration ⟨250⟩).nanos ≤ done.slept.total.nanos := by
  intro runner script
  have hrun : runner.hold Interpreter.runBackgroundTasks = (.returned ⟨250⟩, runner) := rfl
  obtain ⟨done, hstep, hslept, -⟩ :=
    step_sleeps_in_full (fresh Config.standard.scheduler) hrun script
  obtain ⟨-, calls, hfull⟩ := hslept (by decide)
  obtain rfl : (fresh Config.standard.scheduler).settle ⟨250⟩ script = done := by
    injection congrArg Prod.fst hstep
  exact ⟨hrun, _, hstep, by decide, by decide, hfull.total⟩

end Scheduler

end BoardConsole
