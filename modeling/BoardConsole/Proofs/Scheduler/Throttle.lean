import BoardConsole.Proofs.Scheduler.Attempts
import Mathlib

/-!
# The background scheduler — How long it goes without a sleep

A run that reports a zero deadline adds one to the streak, and the scheduler goes straight back only
while the streak is below the limit; any other step sleeps, and the streak starts anew.  So the
streak counts the steps since the last sleep (`Throttled`), and with settings that were checked the
scheduler never spins, whatever the interpreter reports (`never_spins`).
-/

namespace BoardConsole

/-! ### Settings that are checked -/

/-- Some steps may go straight back, and the back-off takes some time. -/
structure SchedulerConfig.Checked (config : SchedulerConfig) : Prop where
  limit   : 0 < config.maxImmediateReruns
  backoff : config.zeroDeadlineBackoff.isZero = false

namespace Config

theorem checked_of_validate {c : Config} (h : c.validate = .ok ()) : c.scheduler.Checked := by
  unfold validate at h
  split at h
  · cases h
  split at h
  · cases h
  split at h
  · cases h
  rename_i hlimit
  split at h
  · cases h
  rename_i hbackoff
  exact ⟨UInt32.pos_iff_ne_zero.mpr hlimit, Bool.eq_false_iff.mpr hbackoff⟩

theorem validate_of_ofToml {text : String} {c : Config} (h : ofToml text = .ok c) :
    c.validate = .ok () := by
  unfold ofToml at h
  split at h
  · cases h
  rename_i es _
  cases hread : ofEntries es with
  | error e => simp [hread, bind, Except.bind] at h
  | ok d =>
      cases hvalid : d.validate with
      | error e => simp [hread, hvalid, bind, Except.bind] at h
      | ok u =>
          simp only [hread, hvalid, bind, Except.bind, pure, Except.pure, Except.ok.injEq] at h
          rw [← h, hvalid]

end Config

/-! ### Sleeps -/

/-- A sleep that takes some time begins with a request for the whole of it. -/
theorem requests_sleepFor {d : Duration} (h : d.isZero = false) (script : List Interruption) :
    ∃ more, (sleepFor d script).requests = d :: more := by
  cases script <;> simp [sleepFor, h]

namespace Scheduler
open Interpreter

/-! ### One step -/

/-- A step sleeps for some time: toward a deadline, or for the back-off. -/
inductive Step.Sleeps (step : Step) (backoff : Duration) : Prop where
  | toward {deadline : Deadline} {more : List Duration} :
      step.after = .slept deadline →
      step.slept.requests = deadline.toDuration :: more →
      0 < deadline.toDuration.nanos → Sleeps step backoff
  | backOff {more : List Duration} :
      step.after = .backedOff backoff →
      step.slept.requests = backoff :: more →
      0 < backoff.nanos → Sleeps step backoff

theorem Step.Sleeps.ne_yielded {step : Step} {backoff : Duration} (h : step.Sleeps backoff) :
    step.after ≠ .yielded := by
  cases h with
  | toward hafter => simp [hafter]
  | backOff hafter => simp [hafter]

/-- **What a step does to the streak.**  It goes straight back and adds one, still below the limit,
or it sleeps and the streak starts anew. -/
theorem settle_cases {s : Scheduler} (hchecked : s.config.Checked)
    (hstreak : s.streak < s.config.maxImmediateReruns) (deadline : Deadline)
    (script : List Interruption) :
    (s.settle deadline script).scheduler.config = s.config ∧
      ((s.settle deadline script).after = .yielded ∧
          (s.settle deadline script).scheduler.streak.toNat = s.streak.toNat + 1 ∧
          (s.settle deadline script).scheduler.streak < s.config.maxImmediateReruns ∨
        (s.settle deadline script).Sleeps s.config.zeroDeadlineBackoff ∧
          (s.settle deadline script).scheduler.streak = 0) := by
  cases himmediate : deadline.isImmediate with
  | false =>
      have hlong := Deadline.isZero_toDuration himmediate
      obtain ⟨more, hrequests⟩ := requests_sleepFor hlong script
      rw [settle_long himmediate]
      exact ⟨rfl, .inr ⟨.toward rfl hrequests (Duration.isZero_eq_false.mp hlong), rfl⟩⟩
  | true =>
      by_cases hbelow : increment s.streak < s.config.maxImmediateReruns
      · rw [settle_below himmediate hbelow]
        exact ⟨rfl, .inl ⟨rfl, toNat_increment hstreak, hbelow⟩⟩
      · obtain ⟨more, hrequests⟩ := requests_sleepFor hchecked.backoff script
        rw [settle_full himmediate hbelow]
        exact ⟨rfl, .inr ⟨.backOff rfl hrequests
          (Duration.isZero_eq_false.mp hchecked.backoff), rfl⟩⟩

/-! ### Runs -/

/-- Steps that follow a streak: one that goes straight back adds one to it and stays below the
limit, and one that sleeps begins it anew. -/
inductive Throttled (config : SchedulerConfig) : (streak : Nat) → List Step → Prop where
  | nil {k : Nat} : Throttled config k []
  | yielded {k : Nat} {step : Step} {steps : List Step} :
      step.after = .yielded → step.scheduler.streak.toNat = k + 1 →
      k + 1 < config.maxImmediateReruns.toNat →
      Throttled config (k + 1) steps → Throttled config k (step :: steps)
  | slept {k : Nat} {step : Step} {steps : List Step} :
      step.Sleeps config.zeroDeadlineBackoff → step.scheduler.streak.toNat = 0 →
      Throttled config 0 steps → Throttled config k (step :: steps)

/-- **A run keeps its streak.**  Each step adds to the streak that the steps before it left. -/
theorem throttled_settleAll {s : Scheduler} (hchecked : s.config.Checked)
    (hstreak : s.streak < s.config.maxImmediateReruns) (sleeper : Sleeper) (asked : List Duration)
    (deadlines : List Deadline) :
    Throttled s.config s.streak.toNat
      ((settleAll sleeper s asked deadlines).1.map Settled.step) := by
  induction deadlines generalizing s asked with
  | nil => exact .nil
  | cons deadline deadlines ih =>
      let first := (settleWith sleeper s asked deadline).step
      obtain ⟨hconfig, hcases⟩ :=
        settle_cases hchecked hstreak deadline (sleeper asked (s.pause deadline))
      have hrest := ih (s := first.scheduler) (hconfig ▸ hchecked)
      rw [show first.scheduler.config = s.config from hconfig] at hrest
      rcases hcases with ⟨hafter, hnext, hbelow⟩ | ⟨hsleeps, hnext⟩
      · refine .yielded hafter hnext ?_ ?_
        · rw [← hnext]
          exact UInt32.lt_iff_toNat_lt.mp hbelow
        · rw [← hnext]
          exact hrest hbelow _
      · rw [show first.scheduler.streak = 0 from hnext] at hrest
        exact .slept hsleeps (congrArg UInt32.toNat hnext) (hrest hchecked.limit _)

namespace Throttled
variable {config : SchedulerConfig} {k : Nat} {steps front window back : List Step}

/-- Steps that come later follow some streak. -/
theorem exists_of_append (h : Throttled config k (front ++ steps))
    (hk : k < config.maxImmediateReruns.toNat) :
    ∃ k', k' < config.maxImmediateReruns.toNat ∧ Throttled config k' steps := by
  induction front generalizing k with
  | nil => exact ⟨k, hk, h⟩
  | cons step front ih =>
      cases h with
      | yielded hafter hnext hbelow hrest => exact ih hrest hbelow
      | slept hsleeps hnext hrest => exact ih hrest (Nat.zero_lt_of_lt hk)

/-- Steps that all go straight back run the streak up, and it stays below the limit. -/
theorem length_lt (h : Throttled config k (window ++ back))
    (hk : k < config.maxImmediateReruns.toNat) (hyielded : ∀ step ∈ window, step.after = .yielded) :
    k + window.length < config.maxImmediateReruns.toNat := by
  induction window generalizing k with
  | nil => exact hk
  | cons step window ih =>
      rw [List.forall_mem_cons] at hyielded
      cases h with
      | yielded hafter hnext hbelow hrest =>
          have := ih hrest hbelow hyielded.2
          rw [List.length_cons]
          omega
      | slept hsleeps hnext hrest => exact absurd hyielded.1 hsleeps.ne_yielded

theorem streak_lt (h : Throttled config k steps) (hchecked : config.Checked) :
    ∀ step ∈ steps, step.scheduler.streak < config.maxImmediateReruns := by
  simp only [UInt32.lt_iff_toNat_lt]
  induction h with
  | nil => simp
  | yielded hafter hnext hbelow hrest ih =>
      rw [List.forall_mem_cons]
      exact ⟨hnext ▸ hbelow, ih⟩
  | slept hsleeps hnext hrest ih =>
      rw [List.forall_mem_cons]
      exact ⟨hnext ▸ UInt32.lt_iff_toNat_lt.mp hchecked.limit, ih⟩

theorem yielded_or_sleeps (h : Throttled config k steps) :
    ∀ step ∈ steps, step.after = .yielded ∨ step.Sleeps config.zeroDeadlineBackoff := by
  induction h with
  | nil => simp
  | yielded hafter hnext hbelow hrest ih =>
      rw [List.forall_mem_cons]
      exact ⟨.inl hafter, ih⟩
  | slept hsleeps hnext hrest ih =>
      rw [List.forall_mem_cons]
      exact ⟨.inr hsleeps, ih⟩

end Throttled

/-- **The scheduler never spins.**  With the settings of any configuration that is accepted, whatever
deadlines the interpreter reports and however its sleeps are interrupted, each run of the tasks that
comes to its end completes a step; of as many completed steps in a row as the limit allows at least
one sleeps for some time; fewer than the limit go straight back in a row; and after each step the
streak is below the limit. -/
theorem never_spins {ι : Type} [Interpreter ι] {text : String} {config : Config}
    (h : Config.ofToml text = .ok config) (lock : ExecutionLock ι) (sleeper : Sleeper) (n : Nat) :
    let completed := (attempts sleeper n (.fresh config.scheduler) lock []).done.map Settled.step
    completed.length = ((endings n lock.value).filter Ending.hasReturned).length ∧
    (∀ window, window <:+: completed →
      window.length = config.scheduler.maxImmediateReruns.toNat →
        ∃ step ∈ window, step.Sleeps config.scheduler.zeroDeadlineBackoff) ∧
    (∀ window, window <:+: completed → (∀ step ∈ window, step.after = .yielded) →
      window.length ≤ config.scheduler.maxImmediateReruns.toNat - 1) ∧
    ∀ step ∈ completed, step.scheduler.streak < config.scheduler.maxImmediateReruns := by
  intro completed
  have hchecked := Config.checked_of_validate (Config.validate_of_ofToml h)
  have hlimit : 0 < config.scheduler.maxImmediateReruns.toNat :=
    UInt32.lt_iff_toNat_lt.mp hchecked.limit
  have hdone := (attempts_eq sleeper n (.fresh config.scheduler) lock []).1
  have hrun : Throttled config.scheduler 0 completed := by
    rw [show completed = _ from congrArg (List.map Settled.step) hdone]
    exact throttled_settleAll (s := .fresh config.scheduler) hchecked hchecked.limit sleeper [] _
  have hshort : ∀ window, window <:+: completed → (∀ step ∈ window, step.after = .yielded) →
      window.length < config.scheduler.maxImmediateReruns.toNat := by
    rintro window ⟨front, back, heq⟩ hyielded
    -- What stands before the window can only have run the streak up, which makes it shorter.
    rw [← heq, List.append_assoc] at hrun
    obtain ⟨k, hk, hwindow⟩ := hrun.exists_of_append hlimit
    have := hwindow.length_lt hk hyielded
    omega
  refine ⟨?_, fun window hwindow hlength => ?_, fun window hwindow hyielded => ?_,
    fun step hstep => hrun.streak_lt hchecked step hstep⟩
  · rw [List.length_map, hdone, length_settleAll, length_reported]
  · by_cases hsleeps : ∃ step ∈ window, step.Sleeps config.scheduler.zeroDeadlineBackoff
    · exact hsleeps
    · have hyielded : ∀ step ∈ window, step.after = .yielded := fun step hstep =>
        (hrun.yielded_or_sleeps step (hwindow.subset hstep)).resolve_right
          fun hsleep => hsleeps ⟨step, hstep, hsleep⟩
      exact absurd hlength (Nat.ne_of_lt (hshort window hwindow hyielded))
  · exact Nat.le_sub_one_of_lt (hshort window hwindow hyielded)

/-- A limit of two, and runs of the tasks of which two are broken off: of the second and the third
step that are completed, one sleeps, which is the back-off. -/
theorem never_spins_two :
    let runs : List (Ending Deadline) :=
      [.returned ⟨0⟩, .panicked, .returned ⟨0⟩, .returned ⟨0⟩, .panicked, .returned ⟨5⟩]
    let lock : ExecutionLock ScriptedRuns := .guard ⟨runs, false⟩
    ∃ config, Config.ofToml "[scheduler]\nmax_immediate_reruns = 2\n" = .ok config ∧
      config.scheduler.maxImmediateReruns = 2 ∧
      let completed := (attempts (fun _ _ => []) 6 (.fresh config.scheduler) lock []).done.map
        Settled.step
      completed.map Step.after = [.yielded, .backedOff (.ofMillis 1), .yielded, .slept ⟨5⟩] ∧
      completed.tail.take 2 <:+: completed ∧
      (completed.tail.take 2).map Step.after = [.backedOff (.ofMillis 1), .yielded] ∧
      ∃ step ∈ completed.tail.take 2, step.Sleeps (.ofMillis 1) := by
  intro runs lock
  have hread : Toml.Document.read "[scheduler]\nmax_immediate_reruns = 2\n"
      = some [("scheduler", .table .header [("max_immediate_reruns", .integer 2)])] := by rfl
  have haccepted : Config.ofToml "[scheduler]\nmax_immediate_reruns = 2\n"
      = .ok { Config.standard with
          scheduler := { Config.standard.scheduler with maxImmediateReruns := 2 } } := by
    rw [Config.ofToml, hread]
    rfl
  refine ⟨_, haccepted, rfl, ?_⟩
  intro completed
  have hwindow : completed.tail.take 2 <:+: completed :=
    (List.take_prefix _ _).isInfix.trans (List.tail_suffix _).isInfix
  exact ⟨by decide, hwindow, by decide,
    (never_spins haccepted lock _ 6).2.1 _ hwindow (by decide)⟩

end Scheduler

end BoardConsole
