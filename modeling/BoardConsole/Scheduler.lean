import BoardConsole.ExecutionLock
import BoardConsole.Time.Sleep

/-!
# The background scheduler

Runs the tasks of an interpreter under its lock and then sleeps until the deadline that the run
reported. A zero deadline skips the sleep; after a streak of as many zero deadlines as allowed, the
scheduler sleeps a back-off and the streak starts anew, so a runner that always wants to run at once
is throttled. A run that is broken off changes nothing here.
-/

namespace BoardConsole

/-- What a scheduler is set up with. -/
structure SchedulerConfig where
  threadName          : String
  /-- The zero deadlines in a row after which the scheduler backs off. -/
  maxImmediateReruns  : UInt32
  zeroDeadlineBackoff : Duration
deriving DecidableEq, Repr

/-- What a scheduler has done, in counters that wrap. -/
structure SchedulerStats where
  /-- Runs of the tasks. -/
  iterations        : UInt64
  /-- Runs that reported a zero deadline. -/
  immediateReruns   : UInt64
  /-- Back-off sleeps. -/
  backoffs          : UInt64
  /-- Interruptions of sleeps toward a deadline. -/
  interruptedSleeps : UInt64
  /-- Milliseconds of sleeps toward a deadline. -/
  sleptMillis       : UInt64
deriving DecidableEq, Repr

def SchedulerStats.zero : SchedulerStats := ⟨0, 0, 0, 0, 0⟩

/-- What a scheduler did after a run. -/
inductive AfterRun where
  /-- It slept until the deadline. -/
  | slept (deadline : Deadline)
  /-- The deadline was zero: it went straight back. -/
  | yielded
  /-- The streak of zero deadlines was full: it slept the back-off. -/
  | backedOff (backoff : Duration)
deriving DecidableEq, Repr

/-- A scheduler. -/
structure Scheduler where
  config : SchedulerConfig
  stats  : SchedulerStats
  /-- The zero deadlines in a row so far. -/
  streak : UInt32
deriving DecidableEq, Repr

namespace Scheduler

/-- A scheduler that has run nothing yet. -/
def fresh (config : SchedulerConfig) : Scheduler := ⟨config, .zero, 0⟩

/-- Counts up to the largest word and stays there. -/
def increment (n : UInt32) : UInt32 := if n = 0xFFFFFFFF then n else n + 1

/-- What one step comes to: what it did, how it slept, and the scheduler after it. -/
structure Step where
  after     : AfterRun
  slept     : Slept
  scheduler : Scheduler

/-- Sleeps toward a deadline that is not zero. -/
def sleepToward (s : Scheduler) (deadline : Deadline) (script : List Interruption) : Step :=
  let slept := sleepFor deadline.toDuration script
  { after := .slept deadline
    slept := slept
    scheduler :=
      { s with
        streak := 0
        stats := { s.stats with
          interruptedSleeps := s.stats.interruptedSleeps + slept.interruptions.toUInt64
          sleptMillis := s.stats.sleptMillis + deadline.millis } } }

/-- Goes straight back, or backs off where the streak is full. -/
def rerun (s : Scheduler) (script : List Interruption) : Step :=
  let stats := { s.stats with immediateReruns := s.stats.immediateReruns + 1 }
  let streak := increment s.streak
  if streak < s.config.maxImmediateReruns then
    { after := .yielded
      slept := ⟨[], 0, .zero, script⟩
      scheduler := { s with stats, streak } }
  else
    { after := .backedOff s.config.zeroDeadlineBackoff
      slept := sleepFor s.config.zeroDeadlineBackoff script
      scheduler := { s with streak := 0, stats := { stats with backoffs := stats.backoffs + 1 } } }

/-- What follows a run that reported a deadline. -/
def settle (s : Scheduler) (deadline : Deadline) (script : List Interruption) : Step :=
  let s := { s with stats := { s.stats with iterations := s.stats.iterations + 1 } }
  if deadline.isImmediate then s.rerun script else s.sleepToward deadline script

/-- Runs the tasks under the lock, gives it back, and then sleeps. -/
def step {ι : Type} [Interpreter ι] (s : Scheduler) (lock : ExecutionLock ι)
    (script : List Interruption) : Ending Step × ExecutionLock ι :=
  let (ending, lock) := lock.hold Interpreter.runBackgroundTasks
  match ending with
  | .returned deadline => (.returned (s.settle deadline script), lock)
  | .panicked          => (.panicked, lock)

/-- What several steps come to. -/
structure Run (ι : Type) where
  /-- What each step did, in order. -/
  afters    : List AfterRun
  /-- The sleeps requested, in order. -/
  requests  : List Duration
  /-- The last run was broken off. -/
  panicked  : Bool
  unused    : List Interruption
  scheduler : Scheduler
  lock      : ExecutionLock ι

/-- At most `n` steps, up to the first run that is broken off. -/
def steps {ι : Type} [Interpreter ι] : (n : Nat) → Scheduler → ExecutionLock ι →
    List Interruption → Run ι
  | 0, s, lock, script => ⟨[], [], false, script, s, lock⟩
  | n + 1, s, lock, script =>
    match s.step lock script with
    | (.panicked, lock) => ⟨[], [], true, script, s, lock⟩
    | (.returned done, lock) =>
      let rest := steps n done.scheduler lock done.slept.unused
      { rest with
        afters   := done.after :: rest.afters
        requests := done.slept.requests ++ rest.requests }

end Scheduler

/-- A task runner that reports deadlines from a list, or is broken off where the list says so. -/
structure ScriptedRuns where
  runs  : List (Ending Deadline)
  /-- Whether the last entry is repeated for ever; otherwise a run past it is broken off. -/
  loops : Bool

instance : Interpreter ScriptedRuns where
  runBackgroundTasks s :=
    match s.runs with
    | []          => (.panicked, s)
    | [last]      => (last, if s.loops then s else { s with runs := [] })
    | run :: runs => (run, { s with runs })
  doCommand _ s := s

end BoardConsole
