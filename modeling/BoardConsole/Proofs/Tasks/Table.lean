import BoardConsole.TaskTable

/-!
# Tasks — What the operations do to the table

Reading a slot after an operation gives the task that the operation put there, or the one that was
there before (`get?_start`, `get?_stop`, `get?_rearm`).  So the operations keep a table `Sound`:
every task knows its slot, and no macro has two tasks.

In a numbered table the ids that are due are the slots of the tasks that are due, in increasing
order (`mem_due`, `due_sorted`).
-/

namespace BoardConsole.TaskTable

/-- Every task knows the slot that it is in. -/
def Numbered (t : TaskTable) : Prop :=
  ∀ {slot : Nat} {task : Task}, t.get? slot = some task → task.id = slot

/-- No macro has a task in two slots. -/
def Distinct (t : TaskTable) : Prop :=
  ∀ {i j : Nat} {a b : Task}, t.get? i = some a → t.get? j = some b → a.name = b.name → i = j

/-- A table as it is kept: numbered, and with one task a macro. -/
structure Sound (t : TaskTable) : Prop where
  numbered : t.Numbered
  distinct : t.Distinct

/-! ### Slots -/

theorem get?_eq_some {t : TaskTable} {slot : Nat} {task : Task} :
    t.get? slot = some task ↔ t.slots[slot]? = some (some task) := by
  rw [get?, Option.join_eq_some_iff]

theorem lt_of_get? {t : TaskTable} {slot : Nat} {task : Task} (h : t.get? slot = some task) :
    slot < t.slots.length :=
  (List.getElem?_eq_some_iff.mp (get?_eq_some.mp h)).1

theorem get?_eq_none_of_le {t : TaskTable} {slot : Nat} (h : t.slots.length ≤ slot) :
    t.get? slot = none := by
  rw [get?, List.getElem?_eq_none h, Option.join_none]

@[simp]
theorem get?_empty (capacity slot : Nat) : (empty capacity).get? slot = none := by
  simp only [get?, empty, List.getElem?_replicate]
  split <;> rfl

theorem get?_set {t : TaskTable} {id : Nat} (h : id < t.slots.length) (task : Option Task)
    (slot : Nat) :
    (⟨t.slots.set id task⟩ : TaskTable).get? slot = if slot = id then task else t.get? slot := by
  unfold get?
  rw [List.getElem?_set]
  by_cases heq : id = slot
  · subst heq
    simp [h]
  · rw [if_neg heq, if_neg (Ne.symm heq)]

@[simp]
theorem get?_stopAll (t : TaskTable) (slot : Nat) : t.stopAll.get? slot = none :=
  get?_empty _ _

theorem get?_stop (t : TaskTable) (id slot : Nat) :
    (t.stop id).2.get? slot = if slot = id then none else t.get? slot := by
  by_cases h : id < t.slots.length
  · exact get?_set h none slot
  · have hle : t.slots.length ≤ id := Nat.le_of_not_lt h
    rw [stop, List.set_eq_of_length_le hle]
    split
    · rename_i heq
      rw [heq, get?_eq_none_of_le hle]
    · rfl

theorem get?_rearm (t : TaskTable) (id : Nat) (now : Millis) (slot : Nat) :
    (t.rearm id now).get? slot =
      if slot = id then
        (t.get? id).map fun task => { task with nextDue := Millis.plus now task.interval }
      else t.get? slot := by
  unfold rearm
  split
  · rename_i task h
    rw [get?_set (lt_of_get? h), h]
    rfl
  · rename_i h
    split
    · rename_i heq
      rw [heq, h]
      rfl
    · rfl

/-- The slot for a macro is that of its task, or else a free one, where it has no task. -/
theorem of_slotFor? {t : TaskTable} {name : String} {id : Nat} (h : t.slotFor? name = some id) :
    id < t.slots.length ∧
      ((∃ task, t.get? id = some task ∧ task.name = name) ∨
        ∀ slot task, t.get? slot = some task → task.name ≠ name) := by
  unfold slotFor? at h
  cases hown : t.slots.findIdx? (fun s => s.any (·.name == name)) with
  | some own =>
      rw [hown, Option.some_or, Option.some.injEq] at h
      subst h
      obtain ⟨hlt, hany, -⟩ := List.findIdx?_eq_some_iff_getElem.mp hown
      refine ⟨hlt, .inl ?_⟩
      obtain ⟨task, hslot, hname⟩ := Option.any_eq_true _ _ |>.mp hany
      exact ⟨task, get?_eq_some.mpr (by rw [List.getElem?_eq_getElem hlt, hslot]),
        beq_iff_eq.mp hname⟩
  | none =>
      rw [hown, Option.none_or] at h
      obtain ⟨hlt, -, -⟩ := List.findIdx?_eq_some_iff_getElem.mp h
      refine ⟨hlt, .inr fun slot task htask hname => ?_⟩
      have hmem := List.mem_of_getElem? (get?_eq_some.mp htask)
      have hother := List.findIdx?_eq_none_iff.mp hown _ hmem
      simp [hname] at hother

/-- A macro that is started gets the slot that is for it. -/
theorem of_start {t u : TaskTable} {name : String} {interval now : Millis} {id : Nat}
    (h : t.start name interval now = .ok (id, u)) :
    t.slotFor? name = some id ∧ u = ⟨t.slots.set id (some ⟨id, name, interval, now⟩)⟩ := by
  unfold start at h
  cases hslot : t.slotFor? name with
  | none => simp [hslot] at h
  | some own =>
      simp only [hslot, Except.ok.injEq, Prod.mk.injEq] at h
      obtain ⟨rfl, rfl⟩ := h
      exact ⟨rfl, rfl⟩

theorem get?_start {t u : TaskTable} {name : String} {interval now : Millis} {id : Nat}
    (h : t.start name interval now = .ok (id, u)) (slot : Nat) :
    u.get? slot = if slot = id then some ⟨id, name, interval, now⟩ else t.get? slot := by
  obtain ⟨hslot, rfl⟩ := of_start h
  exact get?_set (of_slotFor? hslot).1 _ slot

/-- A macro that has a task is started in the slot of that task. -/
theorem eq_of_start {t u : TaskTable} (hdistinct : t.Distinct) {name : String}
    {interval now : Millis} {id slot : Nat} {task : Task}
    (h : t.start name interval now = .ok (id, u)) (htask : t.get? slot = some task)
    (hname : task.name = name) : slot = id := by
  rcases (of_slotFor? (of_start h).1).2 with ⟨other, hother, hotherName⟩ | hnone
  · exact hdistinct htask hother (hname.trans hotherName.symm)
  · exact absurd hname (hnone slot task htask)

/-! ### Soundness -/

theorem sound_empty (capacity : Nat) : (empty capacity).Sound where
  numbered h := by simp at h
  distinct h := by simp at h

/-- Where every task of a table was in its slot already, but for its times. -/
theorem Sound.of_subset {t u : TaskTable} (h : t.Sound)
    (hsub : ∀ slot task, u.get? slot = some task →
      ∃ old, t.get? slot = some old ∧ old.id = task.id ∧ old.name = task.name) : u.Sound where
  numbered {slot task} htask := by
    obtain ⟨old, hold, hid, -⟩ := hsub slot task htask
    rw [← hid]
    exact h.numbered hold
  distinct {i j a b} ha hb hname := by
    obtain ⟨olda, hola, -, hnamea⟩ := hsub i a ha
    obtain ⟨oldb, holb, -, hnameb⟩ := hsub j b hb
    exact h.distinct hola holb (hnamea.trans (hname.trans hnameb.symm))

theorem Sound.stop {t : TaskTable} (h : t.Sound) (id : Nat) : (t.stop id).2.Sound := by
  refine h.of_subset fun slot task htask => ?_
  rw [get?_stop] at htask
  split at htask
  · cases htask
  · exact ⟨task, htask, rfl, rfl⟩

theorem Sound.stopAll (t : TaskTable) : t.stopAll.Sound := sound_empty _

theorem Sound.rearm {t : TaskTable} (h : t.Sound) (id : Nat) (now : Millis) :
    (t.rearm id now).Sound := by
  refine h.of_subset fun slot task htask => ?_
  rw [get?_rearm] at htask
  split at htask
  · rename_i heq
    obtain ⟨old, hold, rfl⟩ := Option.map_eq_some_iff.mp htask
    exact ⟨old, heq ▸ hold, rfl, rfl⟩
  · exact ⟨task, htask, rfl, rfl⟩

theorem Sound.start {t u : TaskTable} (h : t.Sound) {name : String} {interval now : Millis}
    {id : Nat} (hstart : t.start name interval now = .ok (id, u)) : u.Sound where
  numbered {slot task} htask := by
    rw [get?_start hstart] at htask
    split at htask
    · cases htask
      rename_i heq
      exact heq.symm
    · exact h.numbered htask
  distinct {i j a b} ha hb hname := by
    rw [get?_start hstart] at ha hb
    split at ha <;> split at hb
    · rename_i hi hj
      exact hi.trans hj.symm
    · rename_i hi _
      cases ha
      exact hi.trans (eq_of_start h.distinct hstart hb hname.symm).symm
    · rename_i _ hj
      cases hb
      exact (eq_of_start h.distinct hstart ha hname).trans hj.symm
    · exact h.distinct ha hb hname

/-! ### Tasks that are due -/

theorem mem_toList {t : TaskTable} {task : Task} :
    task ∈ t.toList ↔ ∃ slot, t.get? slot = some task := by
  rw [toList, List.mem_filterMap]
  simp only [id_eq, exists_eq_right, get?_eq_some, List.mem_iff_getElem?]

/-- The tasks of a numbered table are listed by increasing ids. -/
theorem toList_sorted {t : TaskTable} (h : t.Numbered) :
    t.toList.Pairwise fun a b => a.id < b.id := by
  rw [toList, List.pairwise_filterMap, List.pairwise_iff_getElem]
  intro i j hi hj hij a ha b hb
  have hslot : ∀ {k : Nat} (hk : k < t.slots.length) {task : Task},
      id t.slots[k] = some task → task.id = k :=
    fun hk _ htask => h (get?_eq_some.mpr (by rw [List.getElem?_eq_getElem hk, ← htask]; rfl))
  rw [hslot hi ha, hslot hj hb]
  exact hij

/-- **The ids that are due** are the slots of the tasks that are due. -/
theorem mem_due {t : TaskTable} (h : t.Numbered) {now : Millis} {slot : Nat} :
    slot ∈ t.due now ↔ ∃ task, t.get? slot = some task ∧ task.nextDue ≤ now := by
  simp only [due, List.mem_map, List.mem_filter, mem_toList, decide_eq_true_eq]
  constructor
  · rintro ⟨task, ⟨⟨i, hi⟩, hdue⟩, rfl⟩
    exact ⟨task, h hi ▸ hi, hdue⟩
  · rintro ⟨task, htask, hdue⟩
    exact ⟨task, ⟨⟨slot, htask⟩, hdue⟩, h htask⟩

/-- They are in increasing order, so each is there once. -/
theorem due_sorted {t : TaskTable} (h : t.Numbered) (now : Millis) :
    (t.due now).Pairwise (· < ·) := by
  rw [due, List.pairwise_map]
  exact (toList_sorted h).filter _

end BoardConsole.TaskTable
