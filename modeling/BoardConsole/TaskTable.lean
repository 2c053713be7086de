import BoardConsole.Error
import BoardConsole.Time.Saturating

/-!
# Tasks — The task table

A fixed number of slots, each free or holding a task: a macro that is run again and again. A macro
has at most one task; starting it again keeps its slot. Due times never pass the largest word.
-/

namespace BoardConsole

/-- A macro that runs in the background. -/
structure Task where
  /-- The slot that the task was started in. -/
  id       : Nat
  name     : String
  interval : Millis
  /-- The clock reading from which on the task is due. -/
  nextDue  : Millis
deriving DecidableEq, Repr

/-- The slots, some of them taken. -/
structure TaskTable where
  slots : List (Option Task)
deriving DecidableEq, Repr

namespace TaskTable

/-- A table of free slots. -/
def empty (capacity : Nat) : TaskTable := ⟨List.replicate capacity none⟩

def capacity (t : TaskTable) : Nat := t.slots.length

/-- The tasks, in the order of slots. -/
def toList (t : TaskTable) : List Task := t.slots.filterMap id

def isEmpty (t : TaskTable) : Bool := t.toList.isEmpty

/-- The task in a slot. -/
def get? (t : TaskTable) (id : Nat) : Option Task := t.slots[id]?.join

/-- The slot for a macro: the one of its task, or else the first free one. -/
def slotFor? (t : TaskTable) (name : String) : Option Nat :=
  (t.slots.findIdx? fun s => s.any (·.name == name)).or (t.slots.findIdx? (·.isNone))

/-- Runs a macro from `now` on, at an interval. -/
def start (t : TaskTable) (name : String) (interval now : Millis) :
    Except CommandError (Nat × TaskTable) :=
  match t.slotFor? name with
  | some id => .ok (id, ⟨t.slots.set id (some ⟨id, name, interval, now⟩)⟩)
  | none    => .error (.tooManyTasks t.capacity)

/-- Frees a slot, and answers the task that was in it. -/
def stop (t : TaskTable) (id : Nat) : Option Task × TaskTable :=
  (t.get? id, ⟨t.slots.set id none⟩)

/-- Frees every slot. -/
def stopAll (t : TaskTable) : TaskTable := empty t.capacity

/-- The ids of the tasks due at `now`, in the order of slots. -/
def due (t : TaskTable) (now : Millis) : List Nat :=
  (t.toList.filter (·.nextDue ≤ now)).map (·.id)

/-- Makes the task in a slot due one interval after `now`. -/
def rearm (t : TaskTable) (id : Nat) (now : Millis) : TaskTable :=
  match t.get? id with
  | some task => ⟨t.slots.set id (some { task with nextDue := Millis.plus now task.interval })⟩
  | none      => t

/-- The time from `now` until the first task is due; nothing without tasks. -/
def nextDeadline (t : TaskTable) (now : Millis) : Option Millis :=
  (t.toList.map fun task => Millis.minus task.nextDue now).min?

@[simp] theorem capacity_stop (t : TaskTable) (id : Nat) :
    (t.stop id).2.capacity = t.capacity := by
  simp [stop, capacity]

@[simp] theorem capacity_rearm (t : TaskTable) (id : Nat) (now : Millis) :
    (t.rearm id now).capacity = t.capacity := by
  unfold rearm
  split <;> simp [capacity]

end TaskTable

end BoardConsole
