import BoardConsole.Proofs.Console.Pass

/-!
# Console — How long a pass lets the others wait

The table is scanned in two ways: `due` compares due times with a reading, and `nextDeadline` takes
the least of the differences, which stop at zero.  They go by the same tasks at every time: up to
the end of the deadline nothing is due, and when it ends something is (`DueIn`).  No sum wraps on
the way, for a deadline ends at the due time of a task, or is zero.

A pass answers with that deadline at its last reading, or with the idle interval where that is
shorter (`Rests`).

* `deadlines_exact`: both, for every table and every pass.
-/

namespace BoardConsole

namespace TaskTable

/-! ### The two scans -/

theorem due_eq_nil_iff {t : TaskTable} {now : Millis} :
    t.due now = [] ↔ ∀ task ∈ t.toList, now < task.nextDue := by
  simp only [due, List.map_eq_nil_iff, List.filter_eq_nil_iff, decide_eq_true_eq, UInt64.not_le]

theorem nextDeadline_eq_none_iff {t : TaskTable} {now : Millis} :
    t.nextDeadline now = none ↔ t.isEmpty = true := by
  rw [nextDeadline, List.min?_eq_none_iff, List.map_eq_nil_iff, isEmpty, List.isEmpty_iff]

/-- A deadline is the time until some task is due, and none is due earlier. -/
theorem nextDeadline_eq_some_iff {t : TaskTable} {now d : Millis} :
    t.nextDeadline now = some d ↔
      (∃ task ∈ t.toList, task.nextDue.toNat - now.toNat = d.toNat) ∧
        ∀ task ∈ t.toList, d.toNat ≤ task.nextDue.toNat - now.toNat := by
  rw [nextDeadline, List.min?_eq_some_iff, List.mem_map, List.forall_mem_map]
  simp only [← UInt64.toNat_inj, UInt64.le_iff_toNat_le, Millis.toNat_minus]

/-- From `now` on, nothing is due before `d` is over, and something is as soon as it is. -/
structure DueIn (t : TaskTable) (now d : Millis) : Prop where
  fits      : now.toNat + d.toNat < UInt64.size
  nothing   : ∀ time, now ≤ time → time < now + d → t.due time = []
  something : t.due (now + d) ≠ []

/-- **A deadline is exact.** -/
theorem dueIn_of_nextDeadline {t : TaskTable} {now d : Millis} (h : t.nextDeadline now = some d) :
    t.DueIn now d := by
  obtain ⟨⟨first, hfirst, hd⟩, hleast⟩ := nextDeadline_eq_some_iff.mp h
  have hfits : now.toNat + d.toNat < UInt64.size := by
    have hnow := now.toNat_lt_size
    have hdue := first.nextDue.toNat_lt_size
    omega
  have hsum : (now + d).toNat = now.toNat + d.toNat := by
    rw [UInt64.toNat_add, Nat.mod_eq_of_lt hfits]
  refine ⟨hfits, fun time hfrom hbefore => due_eq_nil_iff.mpr fun task htask => ?_, fun hnone => ?_⟩
  · have hle := hleast task htask
    rw [UInt64.le_iff_toNat_le] at hfrom
    rw [UInt64.lt_iff_toNat_lt, hsum] at hbefore
    rw [UInt64.lt_iff_toNat_lt]
    omega
  · have hlater := due_eq_nil_iff.mp hnone first hfirst
    rw [UInt64.lt_iff_toNat_lt, hsum] at hlater
    omega

/-- A deadline is zero when something is due already, and only then. -/
theorem DueIn.eq_zero_iff {t : TaskTable} {now d : Millis} (h : t.DueIn now d) :
    d = 0 ↔ t.due now ≠ [] := by
  constructor
  · rintro rfl
    simpa using h.something
  · intro hdue
    by_contra hne
    have hpos : 0 < d.toNat := UInt64.lt_iff_toNat_lt.mp (UInt64.pos_iff_ne_zero.mpr hne)
    refine hdue (h.nothing now (UInt64.le_refl _) ?_)
    rw [UInt64.lt_iff_toNat_lt, UInt64.toNat_add, Nat.mod_eq_of_lt h.fits]
    omega

end TaskTable

namespace Console
open Script

/-! ### The deadline of a pass -/

/-- How long to wait at `now`, where the tasks are those of `t` and no wait is longer than
`idle`. -/
structure Rests (t : TaskTable) (idle : Duration) (now : Millis) (deadline : Deadline) : Prop where
  /-- Where there are tasks: until the first of them is due, or for the idle interval in whole
  milliseconds where that is shorter. -/
  waits : ∀ d, t.nextDeadline now = some d →
    deadline.millis.toNat = min d.toNat (idle.nanos / Duration.millisecond)
  /-- Where there are none: for the idle interval, counted up to the largest word. -/
  idles : t.nextDeadline now = none → deadline = .ofDuration idle ∧
    deadline.millis.toNat = min (idle.nanos / Duration.millisecond) (UInt64.size - 1)
  /-- The wait goes past no time at which a task is due; where one is due already, it is zero. -/
  inTime : ∀ slot task, t.get? slot = some task →
    now.toNat + deadline.millis.toNat ≤ max now.toNat task.nextDue.toNat
  /-- It is not longer than the idle interval. -/
  within : deadline.toDuration.nanos ≤ idle.nanos

theorem toNat_ofDuration (d : Duration) : (Deadline.ofDuration d).millis.toNat =
    min (d.nanos / Duration.millisecond) (UInt64.size - 1) :=
  Millis.toNat_clamp _

/-- Whole milliseconds are rounded down. -/
theorem nanos_toDuration_le {deadline : Deadline} {d : Duration}
    (h : deadline.millis.toNat ≤ d.nanos / Duration.millisecond) :
    deadline.toDuration.nanos ≤ d.nanos :=
  (Nat.le_div_iff_mul_le (by decide)).mp h

theorem nextPass_rests (c : Console) (now : Millis) :
    Rests c.tasks c.idleInterval now (c.nextPass now) := by
  have hidle := toNat_ofDuration c.idleInterval
  cases hnext : c.tasks.nextDeadline now with
  | none =>
      have hpass : c.nextPass now = .ofDuration c.idleInterval := by simp only [nextPass, hnext]
      have hempty := TaskTable.nextDeadline_eq_none_iff.mp hnext
      rw [hpass]
      refine ⟨fun d hd => by simp [hnext] at hd, fun _ => ⟨rfl, hidle⟩, fun slot task htask => ?_,
        nanos_toDuration_le (by omega)⟩
      have hmem := TaskTable.mem_toList.mpr ⟨slot, htask⟩
      rw [List.isEmpty_iff.mp hempty] at hmem
      cases hmem
  | some d =>
      have hpass : (c.nextPass now).millis.toNat =
          min d.toNat (c.idleInterval.nanos / Duration.millisecond) := by
        have hd := d.toNat_lt_size
        simp only [nextPass, hnext, UInt64.toNat_min, hidle]
        omega
      refine ⟨fun d' hd' => ?_, fun hnone => by simp [hnext] at hnone, fun slot task htask => ?_,
        nanos_toDuration_le (by omega)⟩
      · cases hnext.symm.trans hd'
        exact hpass
      · have hle := (TaskTable.nextDeadline_eq_some_iff.mp hnext).2 task
          (TaskTable.mem_toList.mpr ⟨slot, htask⟩)
        omega

/-- No line touches the idle interval. -/
theorem untouched_idleInterval (idle : Duration) :
    Untouched fun _ c => c.idleInterval = idle where
  effects _ _ h := h
  opens h       := h
  closes h      := h

/-- **Deadlines are exact**, whatever is in the table: there is none only without tasks, and
otherwise nothing is due before it is over, and something is as soon as it is.  A pass that leaves
the console as `left` before it reads the clock for the last time waits for no longer than that
deadline, and no longer than the idle interval with which it began. -/
theorem deadlines_exact :
    (∀ (t : TaskTable) (now : Millis), (t.nextDeadline now = none ↔ t.isEmpty = true) ∧
      ∀ d, t.nextDeadline now = some d → t.DueIn now d ∧ (d = 0 ↔ t.due now ≠ [])) ∧
    ∀ c : Console, ∃ left deadline,
      Linked { c with host := c.host.readClock.2 } (passTurns c) left ∧
      runBackgroundTasks c = (deadline, { left with host := left.host.readClock.2 }) ∧
      Rests left.tasks c.idleInterval left.host.readClock.1 deadline := by
  refine ⟨fun t now => ⟨TaskTable.nextDeadline_eq_none_iff, fun d hd => ?_⟩, fun c => ?_⟩
  · have hexact := TaskTable.dueIn_of_nextDeadline hd
    exact ⟨hexact, hexact.eq_zero_iff⟩
  · let began := c.host.readClock.1
    let first : Console := { c with host := c.host.readClock.2 }
    let left := (c.tasks.due began).foldl (runTask began) first
    let last : Console := { left with host := left.host.readClock.2 }
    have hidle : last.idleInterval = c.idleInterval :=
      (turns_keep (d := 0) (untouched_idleInterval c.idleInterval) began _ (c := first) rfl).2
    have hrests := nextPass_rests last left.host.readClock.1
    rw [hidle] at hrests
    exact ⟨left, last.nextPass left.host.readClock.1, turns_linked _ _ _, rfl, hrests⟩

end Console

end BoardConsole
