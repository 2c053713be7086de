import BoardConsole.Proofs.Console.Grammar
import BoardConsole.Proofs.Console.TaskLog

/-!
# Console — The turns of a pass

A pass gives a turn to each slot that is due at its first reading, one after the other.  The turns
were fixed when the pass began, and the body that one of them runs can free, refill or time anew any
slot, and define and remove macros; so a turn goes by what the slot holds when it comes.

* `pass_visits_due_slots`: what a pass does, turn by turn.
* `replaced_task_stays_iff`: where a body frees its own slot and starts another macro there, what
  closes the turn befalls the new task.
-/

namespace BoardConsole.Console
open Script

section Tasks
variable {began : Millis} {c d : Console} {slot : Nat} {task : Task} {body : String}

theorem runTask_empty (h : c.tasks.get? slot = none) : runTask began c slot = c := by
  simp only [runTask, h]

theorem runTask_freed (htask : c.tasks.get? slot = some task)
    (hbody : c.host.storage.body? task.name = none) :
    runTask began c slot = { c with tasks := (c.tasks.stop slot).2 } := by
  simp only [runTask, htask, hbody]

theorem runTask_ended (htask : c.tasks.get? slot = some task)
    (hbody : c.host.storage.body? task.name = some body) {v : Arg} (hrun : execute body c = .ok v d) :
    runTask began c slot = { d with tasks := d.tasks.rearm slot began } := by
  simp only [runTask, htask, hbody, hrun]

theorem runTask_failed (htask : c.tasks.get? slot = some task)
    (hbody : c.host.storage.body? task.name = some body) {e : CommandError}
    (hrun : execute body c = .error e d) :
    runTask began c slot =
      { d with
        host  := d.host.emitLine s!"error: {e.message}"
        tasks := (d.tasks.stop slot).2 } := by
  simp only [runTask, htask, hbody, hrun, report]

end Tasks

/-- A slot's turn in a pass that began at `began`, and the console that the turn finds. -/
structure Turn where
  began  : Millis
  slot   : Nat
  before : Console

namespace Turn

/-- The console that the turn leaves. -/
def after (turn : Turn) : Console := runTask turn.began turn.before turn.slot

/-- The task whose macro the turn runs, and the body that it runs. -/
def executed? (turn : Turn) : Option (Task × String) := do
  let task ← turn.before.tasks.get? turn.slot
  let body ← turn.before.host.storage.body? task.name
  return (task, body)

/-- **How a turn goes.** -/
inductive Goes (turn : Turn) : Prop where
  /-- There is no task in the slot any more. -/
  | empty :
      turn.before.tasks.get? turn.slot = none →
      turn.after = turn.before → Goes turn
  /-- The task's macro is not stored any more: the slot is freed. -/
  | freed {task : Task} :
      turn.before.tasks.get? turn.slot = some task →
      turn.before.host.storage.body? task.name = none →
      turn.after = { turn.before with tasks := (turn.before.tasks.stop turn.slot).2 } → Goes turn
  /-- The body ends well: what is in the slot is due again one interval after the pass began. -/
  | ended {task : Task} {body : String} {v : Arg} {d : Console} :
      turn.executed? = some (task, body) →
      execute body turn.before = .ok v d →
      turn.after = { d with tasks := d.tasks.rearm turn.slot turn.began } → Goes turn
  /-- The body fails: its error is printed, and the slot is freed. -/
  | failed {task : Task} {body : String} {e : CommandError} {d : Console} :
      turn.executed? = some (task, body) →
      execute body turn.before = .error e d →
      turn.after =
        { d with
          host  := d.host.emitLine s!"error: {e.message}"
          tasks := (d.tasks.stop turn.slot).2 } → Goes turn

theorem executed?_eq_some {turn : Turn} {task : Task} {body : String} :
    turn.executed? = some (task, body) ↔
      turn.before.tasks.get? turn.slot = some task ∧
        turn.before.host.storage.body? task.name = some body := by
  simp only [executed?, Option.bind_eq_bind, Option.bind_eq_some_iff, Option.pure_def,
    Option.some.injEq, Prod.mk.injEq]
  constructor
  · rintro ⟨_, htask, _, hbody, rfl, rfl⟩
    exact ⟨htask, hbody⟩
  · rintro ⟨htask, hbody⟩
    exact ⟨task, htask, body, hbody, rfl, rfl⟩

theorem goes (turn : Turn) : turn.Goes := by
  cases htask : turn.before.tasks.get? turn.slot with
  | none => exact .empty htask (runTask_empty htask)
  | some task =>
  cases hbody : turn.before.host.storage.body? task.name with
  | none => exact .freed htask hbody (runTask_freed htask hbody)
  | some body =>
  have hexecuted := executed?_eq_some.mpr ⟨htask, hbody⟩
  cases hrun : execute body turn.before with
  | ok v d => exact .ended hexecuted hrun (runTask_ended htask hbody hrun)
  | error e d => exact .failed hexecuted hrun (runTask_failed htask hbody hrun)

/-- What no line touches is as it was after a turn, too. -/
theorem after_keeps {I : Nat → Console → Prop} {d : Nat} (turn : Turn) (h : Untouched I)
    (hbefore : I d turn.before) : I d turn.after := by
  cases turn.goes with
  | empty hnone hafter => rwa [hafter]
  | freed htask hbody hafter =>
      rw [hafter]
      exact h.effects _ _ hbefore
  | @ended task body v d' hexecuted hrun hafter =>
      have hend := h.execute body d turn.before hbefore
      rw [hrun] at hend
      rw [hafter]
      exact h.effects _ _ hend
  | @failed task body e d' hexecuted hrun hafter =>
      have hend := h.execute body d turn.before hbefore
      rw [hrun] at hend
      rw [hafter]
      exact h.effects _ _ hend

/-- What the body that the turn runs does to the tasks. -/
def bodyLog (turn : Turn) : List TaskEvent :=
  match turn.executed? with
  | some (_, body) => executeLog body turn.before
  | none           => []

/-- What closes a turn: nothing of the tasks but the one in the slot is touched, and if one is left
there, it is due again one interval after the pass began. -/
structure Closes (turn : Turn) (d e : Console) : Prop where
  functions : e.functions = d.functions
  clock     : e.host.clock = d.host.clock
  others    : ∀ slot, slot ≠ turn.slot → e.tasks.get? slot = d.tasks.get? slot
  own       : ∀ task, e.tasks.get? turn.slot = some task → ∃ left, d.tasks.get? turn.slot = some left ∧
    task = { left with nextDue := Millis.plus turn.began left.interval }

theorem closes_stop (turn : Turn) {d e : Console} (hfunctions : e.functions = d.functions)
    (hclock : e.host.clock = d.host.clock) (htasks : e.tasks = (d.tasks.stop turn.slot).2) :
    turn.Closes d e where
  functions := hfunctions
  clock     := hclock
  others    := fun slot hslot => by rw [htasks, TaskTable.get?_stop, if_neg hslot]
  own       := fun task htask => by simp [htasks, TaskTable.get?_stop] at htask

theorem Closes.sound {turn : Turn} {d e : Console} (h : turn.Closes d e)
    (hsound : d.tasks.Sound) : e.tasks.Sound := by
  refine hsound.of_subset fun slot task htask => ?_
  by_cases heq : slot = turn.slot
  · subst heq
    obtain ⟨left, hleft, rfl⟩ := h.own task htask
    exact ⟨left, hleft, rfl, rfl⟩
  · rw [h.others slot heq] at htask
    exact ⟨task, htask, rfl, rfl⟩

theorem bodyLog_eq {turn : Turn} {task : Task} {body : String}
    (h : turn.executed? = some (task, body)) : turn.bodyLog = executeLog body turn.before := by
  rw [bodyLog, h]

/-- **A turn is the run of a body, closed**: what the log of the body does not tell of the tasks,
closing the turn does. -/
theorem exists_closes (turn : Turn) :
    ∃ d, Follows turn.before turn.bodyLog d ∧ turn.Closes d turn.after := by
  cases turn.goes with
  | empty hnone hafter =>
      have hlog : turn.bodyLog = [] := by simp [bodyLog, executed?, hnone]
      rw [hlog, hafter]
      exact ⟨_, .refl _, rfl, rfl, fun _ _ => rfl, fun task htask => by simp [hnone] at htask⟩
  | @freed task htask hbody hafter =>
      have hlog : turn.bodyLog = [] := by simp [bodyLog, executed?, htask, hbody]
      rw [hlog, hafter]
      exact ⟨_, .refl _, turn.closes_stop rfl rfl rfl⟩
  | @ended task body v d hexecuted hrun hafter =>
      have hfollows := execute_tells body turn.before
      rw [hrun] at hfollows
      rw [bodyLog_eq hexecuted, hafter]
      refine ⟨d, hfollows, rfl, rfl, fun slot hslot => ?_, fun task htask => ?_⟩
      · rw [TaskTable.get?_rearm, if_neg hslot]
      · rw [TaskTable.get?_rearm, if_pos rfl] at htask
        obtain ⟨left, hleft, rfl⟩ := Option.map_eq_some_iff.mp htask
        exact ⟨left, hleft, rfl⟩
  | @failed task body e d hexecuted hrun hafter =>
      have hfollows := execute_tells body turn.before
      rw [hrun] at hfollows
      rw [bodyLog_eq hexecuted, hafter]
      exact ⟨d, hfollows, turn.closes_stop rfl rfl rfl⟩

end Turn

/-! ### One turn after the other -/

/-- The turns of some slots in a pass. -/
def turns (began : Millis) : (slots : List Nat) → Console → List Turn
  | [], _ => []
  | slot :: slots, c =>
    let turn : Turn := ⟨began, slot, c⟩
    turn :: turns began slots turn.after

/-- The first turn finds one console, the last leaves another, and each turn between finds what the
one before it left. -/
def Linked (c : Console) : List Turn → Console → Prop
  | [], d            => d = c
  | turn :: turns, d => turn.before = c ∧ Linked turn.after turns d

theorem turns_linked (began : Millis) (slots : List Nat) (c : Console) :
    Linked c (turns began slots c) (slots.foldl (runTask began) c) := by
  induction slots generalizing c with
  | nil => rfl
  | cons slot slots ih => exact ⟨rfl, ih _⟩

theorem map_slot_turns (began : Millis) (slots : List Nat) (c : Console) :
    (turns began slots c).map Turn.slot = slots := by
  induction slots generalizing c with
  | nil => rfl
  | cons slot slots ih => exact congrArg (slot :: ·) (ih _)

/-- What no line touches is the same in every turn, and after the last one. -/
theorem turns_keep {I : Nat → Console → Prop} {d : Nat} (h : Untouched I) (began : Millis)
    (slots : List Nat) {c : Console} (hc : I d c) :
    (∀ turn ∈ turns began slots c, I d turn.before) ∧ I d (slots.foldl (runTask began) c) := by
  induction slots generalizing c with
  | nil => exact ⟨nofun, hc⟩
  | cons slot slots ih =>
      let turn : Turn := ⟨began, slot, c⟩
      obtain ⟨hturns, hend⟩ := ih (turn.after_keeps h hc)
      exact ⟨List.forall_mem_cons.mpr ⟨hc, hturns⟩, hend⟩

/-- The tasks in some slots are due by the largest reading so far. -/
def Ready (slots : List Nat) (c : Console) : Prop :=
  ∀ slot ∈ slots, ∀ task, c.tasks.get? slot = some task → task.nextDue ≤ c.host.clock.latest

/-- A body can put a task into a slot whose turn is still to come; but then it does so at a reading
that the clock has shown. -/
theorem Ready.after {slots : List Nat} {turn : Turn} (h : Ready slots turn.before)
    (hsteady : turn.before.functions.Steady) (hslot : turn.slot ∉ slots) :
    Ready slots turn.after := by
  obtain ⟨d, hfollows, hcloses⟩ := turn.exists_closes
  intro slot hmem task htask
  have hne : slot ≠ turn.slot := by
    rintro rfl
    exact hslot hmem
  rw [hcloses.others slot hne, hfollows.tasks] at htask
  rw [hcloses.clock]
  -- A task that was there before the body is due as before; one that it started is due at a reading.
  rcases TaskTable.of_replay htask with hbefore | hstarted
  · exact UInt64.le_trans (h slot hmem task hbefore) (hfollows.latest hsteady)
  · exact hfollows.started hsteady _ _ _ hstarted

theorem ready_of_mem_turns {began : Millis} {slots : List Nat} {c : Console} (h : Ready slots c)
    (hsteady : c.functions.Steady) (hslots : slots.Nodup) :
    ∀ turn ∈ turns began slots c, ∀ task, turn.before.tasks.get? turn.slot = some task →
      task.nextDue ≤ turn.before.host.clock.latest := by
  induction slots generalizing c with
  | nil => simp [turns]
  | cons slot slots ih =>
      rw [List.nodup_cons] at hslots
      intro turn hturn
      rcases List.mem_cons.mp hturn with rfl | hturn
      · exact h slot List.mem_cons_self
      · let first : Turn := ⟨began, slot, c⟩
        have hrest : Ready slots first.before := fun slot hmem =>
          h slot (List.mem_cons_of_mem _ hmem)
        obtain ⟨d, hfollows, hcloses⟩ := first.exists_closes
        have hsame : first.after.functions = c.functions :=
          hcloses.functions.trans hfollows.functions
        exact ih (hrest.after hsteady hslots.1) (hsame ▸ hsteady) hslots.2 turn hturn

/-! ### A whole pass -/

/-- The turns of a pass: those of the slots that are due at its first reading. -/
def passTurns (c : Console) : List Turn :=
  turns c.host.readClock.1 (c.tasks.due c.host.readClock.1) { c with host := c.host.readClock.2 }

/-- **What a pass does.** -/
structure Pass (c : Console) : Prop where
  /-- From the reading that the pass begins with to the one that it ends with, there are its turns,
  one after the other. -/
  linked : ∃ d, Linked { c with host := c.host.readClock.2 } (passTurns c) d ∧
    (runBackgroundTasks c).2 = { d with host := d.host.readClock.2 }
  /-- The slots that get a turn are those that are due at the first reading. -/
  due : ∀ slot, slot ∈ (passTurns c).map Turn.slot ↔
    ∃ task, c.tasks.get? slot = some task ∧ task.nextDue ≤ c.host.readClock.1
  /-- Each of them gets one turn, in increasing order. -/
  increasing : ((passTurns c).map Turn.slot).Pairwise (· < ·)
  /-- So do those whose macro is run. -/
  executed : (((passTurns c).filter (·.executed?.isSome)).map Turn.slot).Pairwise (· < ·)
  /-- A turn finds its slot empty, or frees it, or runs a body, whether that fails or not. -/
  goes : ∀ turn ∈ passTurns c, turn.Goes
  /-- A task that is run is due by the largest reading so far, which is the latest one. -/
  ready : c.functions.Steady → ∀ turn ∈ passTurns c, ∀ task body,
    turn.executed? = some (task, body) → task.nextDue ≤ turn.before.host.clock.latest

/-- **A pass gives each slot that is due one turn**, whatever the bodies do. -/
theorem pass_visits_due_slots {c : Console} (h : c.tasks.Numbered) : Pass c := by
  have hslots : (passTurns c).map Turn.slot = c.tasks.due c.host.readClock.1 :=
    map_slot_turns _ _ _
  have hsorted := TaskTable.due_sorted h c.host.readClock.1
  refine ⟨⟨_, turns_linked _ _ _, rfl⟩, fun slot => ?_, ?_, ?_, fun turn _ => turn.goes, ?_⟩
  · rw [hslots]
    exact TaskTable.mem_due h
  · rwa [hslots]
  · refine List.Pairwise.sublist (List.filter_sublist.map Turn.slot) ?_
    rwa [hslots]
  · intro hsteady turn hturn task body hexecuted
    refine ready_of_mem_turns (c := { c with host := c.host.readClock.2 }) ?_ hsteady
      (hsorted.imp Nat.ne_of_lt) turn hturn task (Turn.executed?_eq_some.mp hexecuted).1
    intro slot hmem task htask
    obtain ⟨due, hdue, hle⟩ := (TaskTable.mem_due h).mp hmem
    cases hdue.symm.trans htask
    exact hle

/-- A console with four tasks that are due.  The first one's macro stops the second task and then
fails, the third one's is not stored, and the last one's ends well. -/
def crowded : Console :=
  { small with
    host  := { small.host with
      storage := ⟨Storage.encodeEntry "a" "stop 1; nope" ++ Storage.encodeEntry "b" "1"
        ++ Storage.encodeEntry "d" "print 7"⟩ }
    tasks := ⟨[some ⟨0, "a", 5, 0⟩, some ⟨1, "b", 5, 0⟩, some ⟨2, "c", 5, 0⟩,
      some ⟨3, "d", 5, 0⟩]⟩ }

theorem crowded_numbered : crowded.tasks.Numbered := by
  intro slot task h
  rw [TaskTable.get?_eq_some] at h
  match slot with
  | 0 | 1 | 2 | 3 =>
      cases h
      rfl
  | _ + 4 => cases h

/-- What its first turn leaves: an error printed, and the slot free beside that of the task that was
stopped. -/
def crowdedFailed : Console :=
  { crowded with
    host  := crowded.host.readClock.2.emitLine "error: unknown name 'nope'"
    tasks := ⟨[none, none, some ⟨2, "c", 5, 0⟩, some ⟨3, "d", 5, 0⟩]⟩ }

/-- What its last turn finds. -/
def crowdedFreed : Console :=
  { crowdedFailed with tasks := ⟨[none, none, none, some ⟨3, "d", 5, 0⟩]⟩ }

theorem runTask_stop_nope :
    runTask 0 { crowded with host := crowded.host.readClock.2 } 0 = crowdedFailed := by
  have htokens : tokenize "stop 1; nope"
      = .ok [.ident "stop", .num 1, .semi, .ident "nope"] := by cbv
  have hprogram : IsProgram [.ident "stop", .num 1, .semi, .ident "nope"]
      [.stop (some (.num 1)), .value (.call "nope" [])] :=
    .more (.stop (.num 1)) (.last (.value (.name "nope") fun word us heq => by
      cases heq
      decide))
  have hrun : execute "stop 1; nope" { crowded with host := crowded.host.readClock.2 }
      = .error (.unknownName "nope") { crowded with
          host  := crowded.host.readClock.2
          tasks := ⟨[some ⟨0, "a", 5, 0⟩, none, some ⟨2, "c", 5, 0⟩, some ⟨3, "d", 5, 0⟩]⟩ } := by
    rw [execute_of_isProgram htokens hprogram]
    cbv
  exact runTask_failed rfl (by cbv) hrun

theorem runTask_print_seven : runTask 0 crowdedFreed 3 = { crowdedFreed with
    host  := crowdedFreed.host.emitLine "7"
    tasks := ⟨[none, none, none, some ⟨3, "d", 5, 5⟩]⟩ } := by
  have htokens : tokenize "print 7" = .ok [.ident "print", .num 7] := by cbv
  have hrun : execute "print 7" crowdedFreed
      = .ok (.num 0) { crowdedFreed with host := crowdedFreed.host.emitLine "7" } := by
    rw [execute_of_isProgram htokens (.last (.print (.one (.num 7))))]
    cbv
  exact runTask_ended rfl (by cbv) hrun

/-- Every turn comes, though the first body fails and stops the second task before it does: its error
is printed, and behind it the line of the last body, which is due again. -/
theorem pass_visits_due_slots_crowded :
    crowded.tasks.Numbered ∧ crowded.functions.Steady ∧ Pass crowded ∧
      (passTurns crowded).map (fun turn => (turn.slot, turn.executed?.map fun run => run.2))
        = [(0, some "stop 1; nope"), (1, none), (2, none), (3, some "print 7")] ∧
      (runBackgroundTasks crowded).2.host.output.bytesOf 0
        = Text.Utf8.encode "error: unknown name 'nope'\r\n7\r\n" ∧
      (runBackgroundTasks crowded).2.tasks = ⟨[none, none, none, some ⟨3, "d", 5, 5⟩]⟩ := by
  have hbegan : crowded.host.readClock.1 = 0 := by cbv
  have hdue : crowded.tasks.due 0 = [0, 1, 2, 3] := by cbv
  have hempty : runTask 0 crowdedFailed 1 = crowdedFailed := runTask_empty rfl
  have hfreed : runTask 0 crowdedFailed 2 = crowdedFreed := runTask_freed rfl (by cbv)
  have hturns : passTurns crowded
      = [⟨0, 0, { crowded with host := crowded.host.readClock.2 }⟩, ⟨0, 1, crowdedFailed⟩,
        ⟨0, 2, crowdedFailed⟩, ⟨0, 3, crowdedFreed⟩] := by
    rw [passTurns, hbegan, hdue]
    simp only [turns, Turn.after, runTask_stop_nope, hempty, hfreed]
  have hend : (runBackgroundTasks crowded).2 = { crowdedFreed with
      host  := (crowdedFreed.host.emitLine "7").readClock.2
      tasks := ⟨[none, none, none, some ⟨3, "d", 5, 5⟩]⟩ } := by
    simp only [runBackgroundTasks, hbegan]
    rw [hdue]
    simp only [List.foldl_cons, List.foldl_nil, runTask_stop_nope, hempty, hfreed,
      runTask_print_seven]
  refine ⟨crowded_numbered, FunctionTable.steady_standardThrough _,
    pass_visits_due_slots crowded_numbered, ?_, ?_, ?_⟩
  · rw [hturns]
    cbv
  · rw [hend]
    cbv
  · rw [hend]

/-! ### A slot that changes hands -/

/-- Whatever the body left in the slot is timed anew if the body ended well, and is stopped if it
failed. -/
theorem Turn.get?_after_slot {turn : Turn} {task : Task} {body : String}
    (h : turn.executed? = some (task, body)) :
    turn.after.tasks.get? turn.slot =
      match execute body turn.before with
      | .ok _ d    => (d.tasks.get? turn.slot).map fun left =>
          { left with nextDue := Millis.plus turn.began left.interval }
      | .error _ _ => none := by
  have hbody := Turn.executed?_eq_some.mp h
  cases turn.goes with
  | empty hnone => cases hnone.symm.trans hbody.1
  | freed htask hnone =>
      cases htask.symm.trans hbody.1
      cases hnone.symm.trans hbody.2
  | ended hexecuted hrun hafter =>
      cases h.symm.trans hexecuted
      simp only [hafter, hrun, TaskTable.get?_rearm, if_pos]
  | failed hexecuted hrun hafter =>
      cases h.symm.trans hexecuted
      simp only [hafter, hrun, TaskTable.get?_stop, if_pos]

/-- **A macro that takes over the slot of the task whose body starts it.**  What closes the turn goes
by the slot, so it takes the new task for the one that was run.  The task stays as it was started
if and only if the body ends well and the task was started at the very reading that lies one of its
intervals after the beginning of the pass.  Otherwise its first run is put off to then, if the body
ended well, and it is stopped, if the body failed. -/
theorem replaced_task_stays_iff {turn : Turn} {task new : Task} {body : String}
    (hrun : turn.executed? = some (task, body))
    (hnew : (endState (execute body turn.before)).tasks.get? turn.slot = some new)
    (hname : new.name ≠ task.name) :
    .started new.name new.interval new.nextDue ∈ executeLog body turn.before ∧
    (turn.after.tasks.get? turn.slot = some new ↔
      (∃ v d, execute body turn.before = .ok v d) ∧
        Millis.plus turn.began new.interval = new.nextDue) ∧
    (∀ v d, execute body turn.before = .ok v d →
      turn.after.tasks.get? turn.slot
        = some { new with nextDue := Millis.plus turn.began new.interval }) ∧
    (∀ e d, execute body turn.before = .error e d →
      turn.after.tasks.get? turn.slot = none) := by
  have hstarted : .started new.name new.interval new.nextDue ∈ executeLog body turn.before := by
    have hleft := hnew
    rw [(execute_tells body turn.before).tasks] at hleft
    rcases TaskTable.of_replay hleft with hbefore | hmem
    · cases hbefore.symm.trans (Turn.executed?_eq_some.mp hrun).1
      exact absurd rfl hname
    · exact hmem
  have hafter := turn.get?_after_slot hrun
  have hok : ∀ v d, execute body turn.before = .ok v d → turn.after.tasks.get? turn.slot
      = some { new with nextDue := Millis.plus turn.began new.interval } := by
    intro v d hend
    rw [hend] at hnew
    simp only [hafter, hend, show d.tasks.get? turn.slot = some new from hnew, Option.map_some]
  have herror : ∀ e d, execute body turn.before = .error e d →
      turn.after.tasks.get? turn.slot = none := by
    intro e d hend
    simp only [hafter, hend]
  refine ⟨hstarted, ⟨fun hstays => ?_, ?_⟩, hok, herror⟩
  · cases hend : execute body turn.before with
    | ok v d =>
        have hsame := hstays.symm.trans (hok v d hend)
        exact ⟨⟨v, d, rfl⟩, congrArg Task.nextDue (Option.some.inj hsame).symm⟩
    | error e d => cases hstays.symm.trans (herror e d hend)
  · rintro ⟨⟨v, d, hend⟩, hdue⟩
    rw [hok v d hend, hdue]

/-- A console with two tasks that are due: the macro in the first slot stops both, and starts the
other one. -/
def handover : Console :=
  { small with
    host  := { small.host with
      storage := ⟨Storage.encodeEntry "b" "" ++ Storage.encodeEntry "a" "stop; run b, 9"⟩ }
    tasks := ⟨[some ⟨0, "a", 5, 0⟩, some ⟨1, "b", 5, 0⟩]⟩ }

/-- The macro that takes the slot over is to be run at once, and is put off. -/
theorem replaced_task_stays_iff_handover :
    ∃ turn ∈ passTurns handover, ∃ body new,
      turn.executed? = some (⟨0, "a", 5, 0⟩, body) ∧
      (endState (execute body turn.before)).tasks.get? turn.slot = some new ∧ new.name = "b" ∧
      new.nextDue = turn.before.host.clock.latest ∧
      turn.after.tasks.get? turn.slot ≠ some new := by
  let c : Console := { handover with host := handover.host.readClock.2 }
  let turn : Turn := ⟨0, 0, c⟩
  have hmem : turn ∈ passTurns handover := by
    have hdue : handover.tasks.due handover.host.readClock.1 = [0, 1] := by cbv
    rw [passTurns, hdue]
    exact List.mem_cons_self
  have hexecuted : turn.executed? = some (⟨0, "a", 5, 0⟩, "stop; run b, 9") := by cbv
  have htokens : tokenize "stop; run b, 9"
      = .ok [.ident "stop", .semi, .ident "run", .ident "b", .comma, .num 9] := by cbv
  have hprogram : IsProgram [.ident "stop", .semi, .ident "run", .ident "b", .comma, .num 9]
      [.stop none, .start "b" (some (.num 9))] :=
    .more .stopAll (.last (.startEvery "b" (.num 9)))
  have hend : execute "stop; run b, 9" c = .ok (.num 0) { c with
      host := c.host.readClock.2
      tasks := ⟨[some ⟨0, "b", 9, 0⟩, none]⟩ } := by
    rw [execute_of_isProgram htokens hprogram]
    cbv
  have hnew : (endState (execute "stop; run b, 9" c)).tasks.get? 0 = some ⟨0, "b", 9, 0⟩ := by
    rw [hend]
    rfl
  have hlatest : 0 = c.host.clock.latest := by cbv
  refine ⟨turn, hmem, _, _, hexecuted, hnew, rfl, hlatest, fun hstays => ?_⟩
  have hdue := ((replaced_task_stays_iff hexecuted hnew (by decide)).2.1.mp hstays).2
  exact absurd hdue (by decide)

end BoardConsole.Console
