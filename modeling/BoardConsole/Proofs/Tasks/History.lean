import BoardConsole.Proofs.Tasks.Log

/-!
# Tasks — A history of the table

A table starts out empty and is changed by starting and stopping tasks and by making one due again,
in any order.  One such operation keeps a table sound and its capacity (`Sound.operate`,
`capacity_operate`), so every table that a history leads to is sound, with as many slots as at
first.

In a sound table the two searches for a slot agree with what is scheduled: the slot of the task of
that name, where there is one (`slotFor?_of_scheduled`), otherwise the lowest free one
(`slotFor?_of_free`); and there is none exactly if the name is not scheduled and no slot is free
(`slotFor?_eq_none_iff`).

* `history_keeps_table`: what holds of every table that a history leads to, and what each operation
  does to it.
-/

namespace BoardConsole

/-- All that can be done to a task table. -/
inductive TaskOp where
  /-- What lines do. -/
  | event (event : TaskEvent)
  /-- The task in a slot is made due again, one interval after `now`. -/
  | rearmed (slot : Nat) (now : Millis)
deriving DecidableEq, Repr

namespace TaskTable

/-- The table after an operation. -/
def operate (t : TaskTable) : TaskOp → TaskTable
  | .event event        => t.apply event
  | .rearmed slot now   => t.rearm slot now

/-- The table after a history of operations. -/
def history (t : TaskTable) (ops : List TaskOp) : TaskTable := ops.foldl operate t

/-- A macro has a task. -/
def Scheduled (t : TaskTable) (name : String) : Prop :=
  ∃ slot task, t.get? slot = some task ∧ task.name = name

/-- No slot is free. -/
def Full (t : TaskTable) : Prop := ∀ slot < t.capacity, t.get? slot ≠ none

/-! ### The slot for a macro -/

section Search
variable {t : TaskTable} {name : String} {slot : Nat}

theorem get?_of_lt (h : slot < t.slots.length) : t.get? slot = t.slots[slot] := by
  rw [get?, List.getElem?_eq_getElem h, Option.join_some]

/-- The search for a task of that name finds none. -/
theorem findIdx?_name_eq_none_iff :
    (t.slots.findIdx? fun s => s.any (·.name == name)) = none ↔ ¬ t.Scheduled name := by
  rw [List.findIdx?_eq_none_iff]
  constructor
  · rintro hnone ⟨slot, task, htask, rfl⟩
    have hother := hnone _ (List.mem_of_getElem? (get?_eq_some.mp htask))
    simp at hother
  · intro hname s hs
    cases s with
    | none => rfl
    | some task =>
        obtain ⟨slot, hslot⟩ := List.mem_iff_getElem?.mp hs
        have hne : task.name ≠ name := fun heq => hname ⟨slot, task, get?_eq_some.mpr hslot, heq⟩
        simpa using hne

/-- The search for a free slot finds none. -/
theorem findIdx?_isNone_eq_none_iff : t.slots.findIdx? (·.isNone) = none ↔ t.Full := by
  rw [List.findIdx?_eq_none_iff]
  constructor
  · intro hnone slot hslot hfree
    have htaken := hnone t.slots[slot] (List.getElem_mem hslot)
    rw [← get?_of_lt hslot, hfree] at htaken
    cases htaken
  · intro hfull s hs
    obtain ⟨slot, hslot, rfl⟩ := List.mem_iff_getElem.mp hs
    rw [← get?_of_lt hslot, Option.isNone_eq_false_iff, Option.isSome_iff_ne_none]
    exact hfull slot hslot

theorem slotFor?_eq_none_iff : t.slotFor? name = none ↔ ¬ t.Scheduled name ∧ t.Full := by
  rw [slotFor?, Option.or_eq_none_iff, findIdx?_name_eq_none_iff, findIdx?_isNone_eq_none_iff]

/-- A macro that is scheduled has its own slot. -/
theorem slotFor?_of_scheduled (h : t.Distinct) {task : Task} (htask : t.get? slot = some task)
    (hname : task.name = name) : t.slotFor? name = some slot := by
  cases hfound : t.slotFor? name with
  | none => exact absurd ⟨slot, task, htask, hname⟩ (slotFor?_eq_none_iff.mp hfound).1
  | some id =>
      rcases (of_slotFor? hfound).2 with ⟨other, hother, hotherName⟩ | hnone
      · rw [h htask hother (hname.trans hotherName.symm)]
      · exact absurd hname (hnone slot task htask)

/-- Any other macro gets the lowest free slot. -/
theorem slotFor?_of_free (hname : ¬ t.Scheduled name) (hslot : slot < t.capacity)
    (hfree : t.get? slot = none) (hlow : ∀ lower < slot, t.get? lower ≠ none) :
    t.slotFor? name = some slot := by
  rw [slotFor?, findIdx?_name_eq_none_iff.mpr hname, Option.none_or,
    List.findIdx?_eq_some_iff_getElem]
  refine ⟨hslot, ?_, fun lower hlower => ?_⟩
  · rw [← get?_of_lt hslot, hfree]
    rfl
  · rw [← get?_of_lt (Nat.lt_trans hlower hslot), Option.isNone_iff_eq_none]
    exact hlow lower hlower

theorem start_of_slotFor? (h : t.slotFor? name = some slot) (interval now : Millis) :
    ∃ u, t.start name interval now = .ok (slot, u) := by
  rw [start, h]
  exact ⟨_, rfl⟩

/-- Starting a macro fails exactly if it is not scheduled and no slot is free. -/
theorem start_eq_error_iff {interval now : Millis} {e : CommandError} :
    t.start name interval now = .error e ↔
      e = .tooManyTasks t.capacity ∧ ¬ t.Scheduled name ∧ t.Full := by
  rw [← slotFor?_eq_none_iff, start]
  cases t.slotFor? name with
  | none => simp [eq_comm]
  | some id => simp

end Search

/-! ### One operation -/

theorem capacity_start {t u : TaskTable} {name : String} {interval now : Millis} {id : Nat}
    (h : t.start name interval now = .ok (id, u)) : u.capacity = t.capacity := by
  obtain ⟨-, rfl⟩ := of_start h
  simp only [capacity, List.length_set]

theorem capacity_operate (t : TaskTable) (op : TaskOp) : (t.operate op).capacity = t.capacity := by
  cases op with
  | rearmed slot now => exact capacity_rearm t slot now
  | event event =>
  cases event with
  | started name interval now =>
      rcases t.apply_started name interval now with ⟨id, hstart⟩ | hsame
      · exact capacity_start hstart
      · exact congrArg capacity hsame
  | stopped slot => exact capacity_stop t slot
  | stoppedAll => exact List.length_replicate

theorem Sound.operate {t : TaskTable} (h : t.Sound) (op : TaskOp) : (t.operate op).Sound := by
  cases op with
  | event event => exact h.apply event
  | rearmed slot now => exact h.rearm slot now

/-! ### A history -/

theorem capacity_history (t : TaskTable) (ops : List TaskOp) :
    (t.history ops).capacity = t.capacity := by
  induction ops generalizing t with
  | nil => rfl
  | cons op ops ih => exact (ih _).trans (capacity_operate t op)

theorem Sound.history {t : TaskTable} (h : t.Sound) (ops : List TaskOp) :
    (t.history ops).Sound := by
  induction ops generalizing t with
  | nil => exact h
  | cons op ops ih => exact ih (h.operate op)

/-- What starting a macro does to a table: it has the slot of its task, or else the lowest free one,
and no other slot changes; where there is none, nothing does. -/
structure Starts (t : TaskTable) (name : String) (interval now : Millis) : Prop where
  /-- A macro that has a task keeps its slot. -/
  own : ∀ slot task, t.get? slot = some task → task.name = name →
    ∃ u, t.start name interval now = .ok (slot, u)
  /-- Any other macro gets the lowest free slot. -/
  free : ¬ t.Scheduled name → ∀ slot < t.capacity, t.get? slot = none →
    (∀ lower < slot, t.get? lower ≠ none) → ∃ u, t.start name interval now = .ok (slot, u)
  /-- There is no slot for it exactly if it has no task and no slot is free. -/
  fails : ∀ e, t.start name interval now = .error e ↔
    e = .tooManyTasks t.capacity ∧ ¬ t.Scheduled name ∧ t.Full
  /-- The task in its slot is a new one, due now. -/
  started : ∀ id u, t.start name interval now = .ok (id, u) →
    t.operate (.event (.started name interval now)) = u ∧
      ∀ slot, u.get? slot = if slot = id then some ⟨id, name, interval, now⟩ else t.get? slot
  unchanged : ∀ e, t.start name interval now = .error e →
    t.operate (.event (.started name interval now)) = t

theorem Sound.starts {t : TaskTable} (h : t.Sound) (name : String) (interval now : Millis) :
    t.Starts name interval now where
  own       := fun _ _ htask hname =>
    start_of_slotFor? (slotFor?_of_scheduled h.distinct htask hname) interval now
  free      := fun hname _ hslot hfree hlow =>
    start_of_slotFor? (slotFor?_of_free hname hslot hfree hlow) interval now
  fails     := fun _ => start_eq_error_iff
  started   := fun id u hstart => by
    refine ⟨?_, get?_start hstart⟩
    simp only [TaskTable.operate, TaskTable.apply, hstart]
  unchanged := fun e hstart => by simp only [TaskTable.operate, TaskTable.apply, hstart]

/-- **The task table is a bounded set of tasks, one for each name.**  After any history of an empty
table, it has as many slots as at first; every task knows its slot, and no two have one name; and
the tasks, and those of them that are due, are listed by increasing ids.  Starting a macro is as
`Starts` says, stopping a task answers the task that was stopped, and any operation other than a
start leaves all slots but its own. -/
theorem history_keeps_table (capacity : Nat) (ops : List TaskOp) :
    let t := (empty capacity).history ops
    (t.capacity = capacity ∧ ∀ slot task, t.get? slot = some task → slot < capacity) ∧
    (∀ slot task, t.get? slot = some task → task.id = slot) ∧
    (∀ i j a b, t.get? i = some a → t.get? j = some b → a.name = b.name → i = j) ∧
    ((t.toList.map (·.id)).Pairwise (· < ·) ∧
      ∀ id, id ∈ t.toList.map (·.id) ↔ ∃ task, t.get? id = some task) ∧
    (∀ now, (t.due now).Pairwise (· < ·) ∧
      ∀ id, id ∈ t.due now ↔ ∃ task, t.get? id = some task ∧ task.nextDue ≤ now) ∧
    (∀ name interval now, t.Starts name interval now) ∧
    (∀ id, (t.stop id).1 = t.get? id ∧
      ∀ slot, (t.operate (.event (.stopped id))).get? slot
        = if slot = id then none else t.get? slot) ∧
    (∀ slot, (t.operate (.event .stoppedAll)).get? slot = none) ∧
    ∀ id now slot, (t.operate (.rearmed id now)).get? slot
      = if slot = id then
          (t.get? id).map fun task => { task with nextDue := Millis.plus now task.interval }
        else t.get? slot := by
  intro t
  have hsound : t.Sound := (sound_empty capacity).history ops
  have hcapacity : t.capacity = capacity :=
    (capacity_history _ ops).trans List.length_replicate
  refine ⟨⟨hcapacity, fun slot task htask => hcapacity ▸ lt_of_get? htask⟩,
    fun _ _ => hsound.numbered, fun _ _ _ _ => hsound.distinct, ⟨?_, fun id => ?_⟩,
    fun now => ⟨due_sorted hsound.numbered now, fun id => mem_due hsound.numbered⟩, hsound.starts,
    fun id => ⟨rfl, get?_stop t id⟩, get?_stopAll t, get?_rearm t⟩
  · exact List.pairwise_map.mpr (toList_sorted hsound.numbered)
  · rw [List.mem_map]
    constructor
    · rintro ⟨task, hmem, rfl⟩
      obtain ⟨slot, hslot⟩ := mem_toList.mp hmem
      exact ⟨task, by rwa [hsound.numbered hslot]⟩
    · rintro ⟨task, htask⟩
      exact ⟨task, mem_toList.mpr ⟨id, htask⟩, hsound.numbered htask⟩

end TaskTable

end BoardConsole
