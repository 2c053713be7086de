import BoardConsole.Proofs.Tasks.Table

/-!
# Tasks — What happens to the tasks

What lines do to the task table is told by a list of events.  Replaying the events on a table
(`replay`) keeps it sound, and finds a task in a slot only if it was there before or one of the
events started it (`of_replay`).  So where no event starts a macro, what is known of its tasks is
still known afterwards (`Each.replay`).
-/

namespace BoardConsole

/-- What a line does to the task table. -/
inductive TaskEvent where
  /-- A macro is started with an interval, where the clock reads `now`. -/
  | started (name : String) (interval now : Millis)
  | stopped (slot : Nat)
  | stoppedAll
deriving DecidableEq, Repr

namespace TaskTable

/-- The table after an event. -/
def apply (t : TaskTable) : TaskEvent → TaskTable
  | .started name interval now =>
    match t.start name interval now with
    | .ok (_, u) => u
    | .error _   => t
  | .stopped slot => (t.stop slot).2
  | .stoppedAll   => t.stopAll

/-- The table after some events. -/
def replay (t : TaskTable) (log : List TaskEvent) : TaskTable := log.foldl apply t

theorem replay_append (t : TaskTable) (log more : List TaskEvent) :
    t.replay (log ++ more) = (t.replay log).replay more := List.foldl_append

/-! ### One event -/

/-- A start that the table has no room for changes nothing. -/
theorem apply_started (t : TaskTable) (name : String) (interval now : Millis) :
    (∃ id, t.start name interval now = .ok (id, t.apply (.started name interval now))) ∨
      t.apply (.started name interval now) = t := by
  simp only [apply]
  cases t.start name interval now with
  | ok found => exact .inl ⟨found.1, rfl⟩
  | error e => exact .inr rfl

theorem Sound.apply {t : TaskTable} (h : t.Sound) (event : TaskEvent) : (t.apply event).Sound := by
  cases event with
  | started name interval now =>
      rcases t.apply_started name interval now with ⟨id, hstart⟩ | hsame
      · exact h.start hstart
      · rwa [hsame]
  | stopped slot => exact h.stop slot
  | stoppedAll => exact .stopAll t

theorem of_apply {t : TaskTable} {event : TaskEvent} {slot : Nat} {task : Task}
    (h : (t.apply event).get? slot = some task) :
    t.get? slot = some task ∨ event = .started task.name task.interval task.nextDue := by
  cases event with
  | started name interval now =>
      rcases t.apply_started name interval now with ⟨id, hstart⟩ | hsame
      · rw [get?_start hstart] at h
        split at h
        · cases h
          exact .inr rfl
        · exact .inl h
      · exact .inl (hsame ▸ h)
  | stopped id =>
      simp only [TaskTable.apply, get?_stop] at h
      split at h
      · cases h
      · exact .inl h
  | stoppedAll =>
      simp only [TaskTable.apply, get?_stopAll] at h
      cases h

/-! ### Some events -/

theorem Sound.replay {t : TaskTable} (h : t.Sound) (log : List TaskEvent) :
    (t.replay log).Sound := by
  induction log generalizing t with
  | nil => exact h
  | cons event log ih => exact ih (h.apply event)

/-- **A task that is there after some events** was there before them, or one of them started it. -/
theorem of_replay {t : TaskTable} {log : List TaskEvent} {slot : Nat} {task : Task}
    (h : (t.replay log).get? slot = some task) :
    t.get? slot = some task ∨ .started task.name task.interval task.nextDue ∈ log := by
  induction log generalizing t with
  | nil => exact .inl h
  | cons event log ih =>
      rcases ih h with hbefore | hmem
      · rcases of_apply hbefore with hfirst | rfl
        · exact .inl hfirst
        · exact .inr List.mem_cons_self
      · exact .inr (List.mem_cons_of_mem _ hmem)

/-- A property of every task of a macro and its slot. -/
def Each (name : String) (P : Nat → Task → Prop) (t : TaskTable) : Prop :=
  ∀ slot task, t.get? slot = some task → task.name = name → P slot task

/-- Where a macro is not started, what its tasks had they keep. -/
theorem Each.replay {name : String} {P : Nat → Task → Prop} {t : TaskTable} (h : t.Each name P)
    {log : List TaskEvent} (hlog : ∀ interval now, .started name interval now ∉ log) :
    (t.replay log).Each name P := by
  rintro slot task htask rfl
  rcases of_replay htask with hbefore | hmem
  · exact h slot task hbefore rfl
  · exact absurd hmem (hlog _ _)

end TaskTable

end BoardConsole
