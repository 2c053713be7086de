import BoardConsole.Proofs.Scheduler.Attempts
import Mathlib

/-!
# The background scheduler — Counters in closed form

What a scheduler has counted, and what it has asked of a sleeper that is never interrupted, are
functions of the deadlines that were reported, without its streak: of how many of them there are,
of their sum, and of their maximal runs of zeros.

The streak starts anew in two places, after a deadline that is not zero and after a back-off.  So it
is the number of zeros that stand in a row at the end, less the full streaks among them: their
remainder by the limit (`Tallied`).  It is full exactly where their number is a multiple of the limit,
and that is where the quotient by the limit grows by one.

* `Tallied.settle`: what one step adds to the counters, and what it asks of the sleeper.
* `counters_closed_form`: the counters and the requests of any run.
-/

namespace BoardConsole

namespace Deadline

/-! ### Runs of zeros -/

/-- The zeros that stand in a row at the end of some deadlines: the position of the last one in its
run of zeros, where the last one is zero. -/
def trailing (deadlines : List Deadline) : Nat := (deadlines.rtakeWhile isImmediate).length

/-- The maximal runs of zeros of some deadlines. Between two deadlines that are not zero and stand
side by side there is one without a zero. -/
def zeroRuns (deadlines : List Deadline) : List (List Deadline) :=
  deadlines.splitOnP fun deadline => !deadline.isImmediate

/-- The full streaks in the maximal runs of zeros. -/
def fullStreaks (limit : Nat) (deadlines : List Deadline) : Nat :=
  ((zeroRuns deadlines).map fun run => run.length / limit).sum

variable {deadlines zeros : List Deadline} {deadline : Deadline} {limit : Nat}

theorem trailing_zero (h : deadline.isImmediate = true) :
    trailing (deadlines ++ [deadline]) = trailing deadlines + 1 := by
  rw [trailing, List.rtakeWhile_concat_pos _ _ _ h, List.length_append, List.length_singleton,
    trailing]

theorem trailing_long (h : deadline.isImmediate = false) :
    trailing (deadlines ++ [deadline]) = 0 := by
  rw [trailing, List.rtakeWhile_concat_neg _ _ _ (by simp [h]), List.length_nil]

theorem zeroRuns_of_zeros (h : ∀ zero ∈ zeros, zero.isImmediate = true) :
    zeroRuns zeros = [zeros] :=
  List.splitOnP_eq_singleton fun zero hzero => by simp [h zero hzero]

theorem zeroRuns_append_cons (h : deadline.isImmediate = false) (more : List Deadline) :
    zeroRuns (deadlines ++ deadline :: more) = zeroRuns deadlines ++ zeroRuns more :=
  List.splitOnP_append_cons _ _ (by simp [h])

/-- The zeros at the end are the last of the runs, whatever number of them there is. -/
theorem exists_zeroRuns (deadlines : List Deadline) :
    ∃ front earlier, deadlines = front ++ deadlines.rtakeWhile isImmediate ∧
      ∀ zeros : List Deadline, (∀ zero ∈ zeros, zero.isImmediate = true) →
        zeroRuns (front ++ zeros) = earlier ++ [zeros] := by
  refine ⟨deadlines.rdropWhile isImmediate, ?_⟩
  rcases List.eq_nil_or_concat' (deadlines.rdropWhile isImmediate) with hnil | ⟨init, last, hlast⟩
  · refine ⟨[], List.rdropWhile_append_rtakeWhile.symm, fun zeros hzeros => ?_⟩
    rw [hnil, List.nil_append, zeroRuns_of_zeros hzeros, List.nil_append]
  · have hlong : last.isImmediate = false := by
      have hne : deadlines.rdropWhile isImmediate ≠ [] := by simp [hlast]
      have hlong := List.rdropWhile_last_not isImmediate deadlines hne
      simpa [hlast] using hlong
    refine ⟨zeroRuns init, List.rdropWhile_append_rtakeWhile.symm, fun zeros hzeros => ?_⟩
    rw [hlast, List.append_assoc, List.singleton_append, zeroRuns_append_cons hlong,
      zeroRuns_of_zeros hzeros]

theorem fullStreaks_long (h : deadline.isImmediate = false) :
    fullStreaks limit (deadlines ++ [deadline]) = fullStreaks limit deadlines := by
  have hruns : zeroRuns (deadlines ++ [deadline]) = zeroRuns deadlines ++ [[]] := by
    rw [zeroRuns_append_cons h []]
    rfl
  rw [fullStreaks, hruns, List.map_append, List.sum_append]
  simp [fullStreaks]

/-- **One more zero** fills a streak where it makes a multiple of the limit. -/
theorem fullStreaks_zero (h : deadline.isImmediate = true) :
    fullStreaks limit (deadlines ++ [deadline])
      = fullStreaks limit deadlines + if limit ∣ trailing deadlines + 1 then 1 else 0 := by
  obtain ⟨front, earlier, hsplit, hruns⟩ := exists_zeroRuns deadlines
  have hzeros : ∀ zero ∈ deadlines.rtakeWhile isImmediate, zero.isImmediate = true :=
    fun zero hzero => List.mem_rtakeWhile_imp hzero
  have hmore : ∀ zero ∈ deadlines.rtakeWhile isImmediate ++ [deadline],
      zero.isImmediate = true := by
    rw [List.forall_mem_append]
    exact ⟨hzeros, by simpa using h⟩
  have hbefore : zeroRuns deadlines = earlier ++ [deadlines.rtakeWhile isImmediate] := by
    rw [← hruns _ hzeros, ← hsplit]
  have hafter : zeroRuns (deadlines ++ [deadline])
      = earlier ++ [deadlines.rtakeWhile isImmediate ++ [deadline]] := by
    rw [← hruns _ hmore, ← List.append_assoc, ← hsplit]
  rw [fullStreaks, fullStreaks, hbefore, hafter]
  simp only [List.map_append, List.sum_append, List.map_singleton, List.sum_singleton,
    List.length_append, List.length_singleton]
  rw [Nat.succ_div, ← Nat.add_assoc]
  rfl

end Deadline

namespace Scheduler
open Deadline Interpreter

/-! ### One step -/

/-- The counters in closed form. -/
def tally (limit : Nat) (deadlines : List Deadline) : SchedulerStats where
  iterations        := .ofNat deadlines.length
  immediateReruns   := .ofNat (deadlines.countP isImmediate)
  backoffs          := .ofNat (fullStreaks limit deadlines)
  interruptedSleeps := 0
  sleptMillis       := .ofNat (deadlines.map fun deadline => deadline.millis.toNat).sum

/-- What is asked of a sleeper when the last of some deadlines has been reported. -/
def requestAfter (config : SchedulerConfig) (deadlines : List Deadline) : List Duration :=
  match deadlines.getLast? with
  | none          => []
  | some deadline =>
    if deadline.isImmediate = false then [deadline.toDuration]
    else if config.zeroDeadlineBackoff.isZero = false ∧
        config.maxImmediateReruns.toNat ∣ trailing deadlines then [config.zeroDeadlineBackoff]
    else []

/-- A scheduler that has settled some deadlines, and no sleep of which was interrupted. -/
structure Tallied (config : SchedulerConfig) (deadlines : List Deadline) (s : Scheduler) :
    Prop where
  settings : s.config = config
  stats    : s.stats = tally config.maxImmediateReruns.toNat deadlines
  streak   : s.streak.toNat = trailing deadlines % config.maxImmediateReruns.toNat

theorem tally_zero {deadlines : List Deadline} {deadline : Deadline} {limit : Nat}
    (h : deadline.isImmediate = true) :
    tally limit (deadlines ++ [deadline]) =
      { tally limit deadlines with
        iterations      := (tally limit deadlines).iterations + 1
        immediateReruns := (tally limit deadlines).immediateReruns + 1
        backoffs        := (tally limit deadlines).backoffs
          + .ofNat (if limit ∣ trailing deadlines + 1 then 1 else 0) } := by
  have hmillis : deadline.millis = 0 := by simpa [isImmediate] using h
  simp [tally, fullStreaks_zero h, h, hmillis, UInt64.ofNat_add]

theorem tally_long {deadlines : List Deadline} {deadline : Deadline} {limit : Nat}
    (h : deadline.isImmediate = false) :
    tally limit (deadlines ++ [deadline]) =
      { tally limit deadlines with
        iterations  := (tally limit deadlines).iterations + 1
        sleptMillis := (tally limit deadlines).sleptMillis + deadline.millis } := by
  simp [tally, fullStreaks_long h, h, UInt64.ofNat_add]

theorem requests_uninterrupted (d : Duration) :
    (sleepFor d []).requests = if d.isZero = false then [d] else [] := by
  cases h : d.isZero <;> simp [sleepFor, h]

theorem interruptions_uninterrupted (d : Duration) : (sleepFor d []).interruptions = 0 := by
  cases h : d.isZero <;> simp [sleepFor, h]

theorem tallied_fresh (config : SchedulerConfig) : Tallied config [] (.fresh config) where
  settings := rfl
  stats    := by simp [fresh, tally, fullStreaks, zeroRuns, SchedulerStats.zero]
  streak   := by simp [fresh, trailing]

/-- The remainder by the limit goes up by one, or starts anew where the next one is a multiple. -/
theorem succ_mod_eq {k limit : Nat} (hpos : 0 < limit) :
    (k + 1) % limit = if k % limit + 1 < limit then k % limit + 1 else 0 := by
  have hlt : k % limit < limit := Nat.mod_lt k hpos
  rw [← Nat.mod_add_mod]
  split_ifs with hbelow
  · exact Nat.mod_eq_of_lt hbelow
  · rw [show k % limit + 1 = limit by omega, Nat.mod_self]

theorem dvd_succ_iff {k limit : Nat} (hpos : 0 < limit) :
    limit ∣ k + 1 ↔ ¬ k % limit + 1 < limit := by
  rw [Nat.dvd_iff_mod_eq_zero, succ_mod_eq hpos]
  split_ifs with hbelow <;> simp [hbelow]

variable {config : SchedulerConfig} {deadlines : List Deadline} {s : Scheduler}
  {deadline : Deadline}

theorem requestAfter_long (h : deadline.isImmediate = false) :
    requestAfter config (deadlines ++ [deadline]) = [deadline.toDuration] := by
  simp [requestAfter, h]

theorem requestAfter_zero (h : deadline.isImmediate = true) :
    requestAfter config (deadlines ++ [deadline])
      = if config.maxImmediateReruns.toNat ∣ trailing deadlines + 1 then
          (sleepFor config.zeroDeadlineBackoff []).requests
        else [] := by
  have hafter : requestAfter config (deadlines ++ [deadline])
      = if config.zeroDeadlineBackoff.isZero = false ∧
          config.maxImmediateReruns.toNat ∣ trailing deadlines + 1 then
          [config.zeroDeadlineBackoff]
        else [] := by
    simp [requestAfter, h, trailing_zero h]
  rw [hafter, requests_uninterrupted]
  split_ifs <;> simp_all

namespace Tallied

/-- The streak is below the limit, and the next zero fills it where it makes a multiple. -/
theorem increment_streak (h : Tallied config deadlines s) (hlimit : 0 < config.maxImmediateReruns) :
    (trailing deadlines + 1) % config.maxImmediateReruns.toNat
        = (if increment s.streak < config.maxImmediateReruns then (increment s.streak).toNat else 0) ∧
      (config.maxImmediateReruns.toNat ∣ trailing deadlines + 1 ↔
        ¬ increment s.streak < config.maxImmediateReruns) := by
  have hpos : 0 < config.maxImmediateReruns.toNat := UInt32.lt_iff_toNat_lt.mp hlimit
  have hbelow : s.streak < config.maxImmediateReruns := by
    rw [UInt32.lt_iff_toNat_lt, h.streak]
    exact Nat.mod_lt _ hpos
  simp only [UInt32.lt_iff_toNat_lt, toNat_increment hbelow, h.streak]
  exact ⟨succ_mod_eq hpos, dvd_succ_iff hpos⟩

/-- **What one step adds.**  A deadline that is not zero is asked for and ends the run of zeros; a
zero is asked for only where it fills the streak. -/
theorem settle (h : Tallied config deadlines s) (hlimit : 0 < config.maxImmediateReruns)
    (deadline : Deadline) :
    Tallied config (deadlines ++ [deadline]) (s.settle deadline []).scheduler ∧
      (s.settle deadline []).slept.requests = requestAfter config (deadlines ++ [deadline]) := by
  obtain ⟨hmod, hfull⟩ := h.increment_streak hlimit
  obtain ⟨rfl, hstats, hstreak⟩ := h
  cases hzero : deadline.isImmediate with
  | false =>
      rw [settle_long hzero, requestAfter_long hzero, requests_uninterrupted,
        if_pos (Deadline.isZero_toDuration hzero), interruptions_uninterrupted]
      refine ⟨⟨rfl, ?_, ?_⟩, rfl⟩
      · rw [tally_long hzero, ← hstats]
        simp
      · rw [trailing_long hzero, Nat.zero_mod]
        rfl
  | true =>
      rw [requestAfter_zero hzero]
      by_cases hbelow : increment s.streak < s.config.maxImmediateReruns
      · rw [if_pos hbelow] at hmod
        rw [settle_below hzero hbelow, if_neg (fun hdvd => hfull.mp hdvd hbelow)]
        refine ⟨⟨rfl, ?_, ?_⟩, rfl⟩
        · rw [tally_zero hzero, if_neg (fun hdvd => hfull.mp hdvd hbelow), ← hstats]
          simp
        · rw [trailing_zero hzero, hmod]
      · rw [if_neg hbelow] at hmod
        rw [settle_full hzero hbelow, if_pos (hfull.mpr hbelow)]
        refine ⟨⟨rfl, ?_, ?_⟩, rfl⟩
        · rw [tally_zero hzero, if_pos (hfull.mpr hbelow), ← hstats]
          rfl
        · rw [trailing_zero hzero, hmod]
          rfl

end Tallied

/-! ### Runs -/

/-- What is asked behind some deadlines, for each of those that follow them. -/
def requestsBehind (config : SchedulerConfig) (earlier deadlines : List Deadline) : List Duration :=
  deadlines.inits.tail.flatMap fun front => requestAfter config (earlier ++ front)

theorem inits_eq_cons (deadlines : List Deadline) : deadlines.inits = [] :: deadlines.inits.tail := by
  cases deadlines <;> rfl

theorem requestsBehind_cons (earlier : List Deadline) :
    requestsBehind config earlier (deadline :: deadlines)
      = requestAfter config (earlier ++ [deadline])
        ++ requestsBehind config (earlier ++ [deadline]) deadlines := by
  have htail : (deadline :: deadlines).inits.tail
      = [deadline] :: deadlines.inits.tail.map (deadline :: ·) := by
    rw [List.inits_cons, List.tail_cons, inits_eq_cons, List.map_cons, List.tail_cons]
  rw [requestsBehind, requestsBehind, htail, List.flatMap_cons, List.flatMap_map]
  simp only [List.append_assoc, List.singleton_append]

theorem requestsBehind_nil (deadlines : List Deadline) :
    requestsBehind config [] deadlines = deadlines.inits.flatMap (requestAfter config) := by
  rw [inits_eq_cons, List.flatMap_cons]
  rfl

/-- **Deadlines that follow others.**  What settling them adds to the counters, and what it asks,
follows from what the steps add, one deadline after the other. -/
theorem settleAll_tallied (hlimit : 0 < config.maxImmediateReruns) {earlier : List Deadline}
    (h : Tallied config earlier s) (asked : List Duration) (deadlines : List Deadline) :
    Tallied config (earlier ++ deadlines) (settleAll (.scripted []) s asked deadlines).2 ∧
      (settleAll (.scripted []) s asked deadlines).1.flatMap (·.step.slept.requests)
        = requestsBehind config earlier deadlines := by
  induction deadlines generalizing earlier s asked with
  | nil => exact ⟨by rwa [List.append_nil], rfl⟩
  | cons deadline deadlines ih =>
      have huninterrupted : (settleWith (.scripted []) s asked deadline).step = s.settle deadline [] := by
        rw [settleWith, Sleeper.scripted, List.drop_nil]
      obtain ⟨hnext, hrequests⟩ := h.settle hlimit deadline
      obtain ⟨htallied, hrest⟩ := ih hnext (asked ++ (s.settle deadline []).slept.requests)
      rw [settleAll, huninterrupted]
      dsimp only
      rw [List.flatMap_cons, huninterrupted, hrequests, requestsBehind_cons,
        List.append_cons earlier, ← hrequests]
      exact ⟨htallied, congrArg _ hrest⟩

/-- **The counters and the sleeps in closed form.**  A fresh scheduler whose runs report some
deadlines, with a sleeper that is never interrupted, has counted the deadlines, the zeros, the full
streaks in each maximal run of zeros, and the sum of the deadlines, in words; and it has asked for
each deadline that is not zero and, where it takes some time, for the back-off at each zero whose
position in its run is a multiple of the limit, in this order and for nothing else. -/
theorem counters_closed_form {ι : Type} [Interpreter ι] {config : SchedulerConfig}
    (hlimit : 0 < config.maxImmediateReruns) {deadlines : List Deadline} {lock : ExecutionLock ι}
    (hruns : endings deadlines.length lock.value = deadlines.map .returned) :
    let run := steps deadlines.length (.fresh config) lock []
    run.panicked = false ∧
      run.scheduler.stats = tally config.maxImmediateReruns.toNat deadlines ∧
      run.requests = deadlines.inits.flatMap (requestAfter config) := by
  intro run
  obtain ⟨hpanicked, hscheduler, -, hrequests⟩ :=
    steps_eq_attempts [] deadlines.length (.fresh config) lock []
  rw [hruns, takeWhile_returned, List.length_map] at hpanicked hscheduler hrequests
  obtain ⟨hdone, hsettled⟩ := attempts_eq (.scripted []) deadlines.length (.fresh config) lock []
  rw [hruns, reported_returned] at hdone hsettled
  obtain ⟨htallied, hasked⟩ := settleAll_tallied hlimit (tallied_fresh config) [] deadlines
  exact ⟨hpanicked.trans (by simp),
    (congrArg Scheduler.stats (hscheduler.trans hsettled)).trans htallied.stats,
    hrequests.trans (by rw [hdone, hasked, requestsBehind_nil])⟩

/-- Runs of three zeros and of two, with a limit of two and deadlines whose sum passes the largest
word. -/
theorem counters_closed_form_wrapping :
    let deadlines : List Deadline := [⟨0⟩, ⟨0⟩, ⟨0⟩, ⟨0xFFFFFFFFFFFFFFFF⟩, ⟨0⟩, ⟨0⟩, ⟨2⟩]
    let config : SchedulerConfig := ⟨"background", 2, .ofMillis 1⟩
    let lock : ExecutionLock ScriptedRuns := .guard ⟨deadlines.map .returned, false⟩
    0 < config.maxImmediateReruns ∧
      endings 7 lock.value = deadlines.map .returned ∧
      (steps 7 (.fresh config) lock []).scheduler.stats = ⟨7, 5, 2, 0, 1⟩ ∧
      (steps 7 (.fresh config) lock []).requests
        = [.ofMillis 1, .ofMillis 0xFFFFFFFFFFFFFFFF, .ofMillis 1, .ofMillis 2] := by
  intro deadlines config lock
  have hruns : endings deadlines.length lock.value = deadlines.map .returned :=
    endings_scripted (deadlines.map .returned)
  have hlimit : 0 < config.maxImmediateReruns := by decide
  obtain ⟨-, hstats, hrequests⟩ := counters_closed_form hlimit hruns
  exact ⟨hlimit, hruns, hstats.trans (by decide), hrequests.trans (by decide)⟩

end Scheduler

end BoardConsole
