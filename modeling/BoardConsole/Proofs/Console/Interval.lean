import BoardConsole.Proofs.Console.Pass

/-!
# Console — The time between two runs of a task

The history of a session says, in order, which tasks its passes ran and what was done to the task
table in between.  In it a macro that is run as a task is not run as a task again before its interval
is over, unless it is started anew (`task_runs_spaced`).

The run that is waited for is the last one of the macro since it was last started (`Watch`).  What
an operation keeps is that every task of the macro has the interval that it had in that run, and is
due one interval after the beginning of that pass at the earliest (`Waits`): a line can stop a task
or start one, but not time it, and the closing of a turn can only put a due time off.
-/

namespace BoardConsole.Console
open Script

/-- What a session does to the tasks, and with them. -/
inductive Happening where
  /-- Something is done to the task table. -/
  | did (event : TaskEvent)
  /-- A pass that began at `began` runs the macro of a task. -/
  | executed (task : Task) (began : Millis)
deriving DecidableEq, Repr

/-- What a turn does: the macro of its task is run, and its body does something to the tasks. -/
def Turn.history (turn : Turn) : List Happening :=
  (turn.executed?.map fun found => .executed found.1 turn.began).toList ++ turn.bodyLog.map .did

/-- What is done with a console from outside. -/
inductive Operation where
  | command (line : String)
  | pass

namespace Operation

def run : Operation → Console → Console
  | command line, c => doCommand line c
  | pass, c         => (runBackgroundTasks c).2

def history : Operation → Console → List Happening
  | command line, c => (executeLog line { c with depth := 0 }).map .did
  | pass, c         => (passTurns c).flatMap Turn.history

end Operation

/-- The history of operations one after the other. -/
def sessionHistory : List Operation → Console → List Happening
  | [], _        => []
  | op :: ops, c => op.history c ++ sessionHistory ops (op.run c)

/-! ### Runs that are waited for -/

/-- The last run of a macro as a task since it was last started, if there is one: when that pass
began, and the interval. -/
abbrev Watch := Option (Millis × Millis)

/-- The watch on a macro once something has happened. -/
def watch (name : String) (w : Watch) : Happening → Watch
  | .did (.started other _ _) => if other = name then none else w
  | .did (.stopped _)         => w
  | .did .stoppedAll          => w
  | .executed task began      => if task.name = name then some (began, task.interval) else w

/-- A macro is not run as a task again before the interval after the run on watch is over. -/
def OnTime (name : String) (w : Watch) : Happening → Prop
  | .did _ => True
  | .executed task began =>
    task.name = name → ∀ first interval, w = some (first, interval) →
      task.interval = interval ∧ Millis.plus first interval ≤ began

/-- Everything in a history is on time. -/
def Spaced (name : String) : Watch → List Happening → Prop
  | _, []      => True
  | w, h :: hs => OnTime name w h ∧ Spaced name (watch name w h) hs

section Histories
variable {name : String} {w : Watch}

theorem spaced_append {hs more : List Happening} :
    Spaced name w (hs ++ more) ↔
      Spaced name w hs ∧ Spaced name (hs.foldl (watch name) w) more := by
  induction hs generalizing w with
  | nil => exact (true_and _).to_iff.symm
  | cons h hs ih =>
      simp only [List.cons_append, Spaced, List.foldl_cons, ih, and_assoc]

/-- Where a macro is neither run as a task nor started, the watch stays as it is. -/
theorem foldl_watch_of_quiet {hs : List Happening}
    (hrun : ∀ task began, .executed task began ∈ hs → task.name ≠ name)
    (hstart : ∀ interval now, .did (.started name interval now) ∉ hs) :
    hs.foldl (watch name) w = w := by
  induction hs with
  | nil => rfl
  | cons h hs ih =>
      have hsame : watch name w h = w := by
        match h with
        | .did (.started other interval now) =>
            refine if_neg ?_
            rintro rfl
            exact hstart interval now List.mem_cons_self
        | .did (.stopped _) | .did .stoppedAll => rfl
        | .executed task began => exact if_neg (hrun task began List.mem_cons_self)
      rw [List.foldl_cons, hsame]
      exact ih (fun task began hmem => hrun task began (List.mem_cons_of_mem _ hmem))
        fun interval now hmem => hstart interval now (List.mem_cons_of_mem _ hmem)

/-- A line clears the watch by starting the macro, or leaves it. -/
theorem foldl_watch_did (log : List TaskEvent) :
    (log.map .did).foldl (watch name) w = none ∨
      (∀ interval now, .started name interval now ∉ log) ∧
        (log.map .did).foldl (watch name) w = w := by
  induction log generalizing w with
  | nil => exact .inr ⟨fun _ _ => List.not_mem_nil, rfl⟩
  | cons event log ih =>
      rcases ih (w := watch name w (.did event)) with hnone | ⟨hlog, hsame⟩
      · exact .inl hnone
      · rw [List.map_cons, List.foldl_cons, hsame]
        match event with
        | .started other interval now =>
            by_cases hname : other = name
            · exact .inl (if_pos hname)
            · refine .inr ⟨?_, if_neg hname⟩
              simp [hlog, Ne.symm hname]
        | .stopped _ | .stoppedAll =>
            refine .inr ⟨?_, rfl⟩
            simp [hlog]

theorem spaced_did (log : List TaskEvent) : Spaced name w (log.map .did) := by
  induction log generalizing w with
  | nil => exact trivial
  | cons event log ih => exact ⟨trivial, ih⟩

/-- Of two runs with neither a run nor a start in between, the later one waits for the earlier. -/
theorem Spaced.of_next {front between back : List Happening} {a b : Task} {first second : Millis}
    (h : Spaced a.name w (front ++ .executed a first :: (between ++ .executed b second :: back)))
    (hname : b.name = a.name)
    (hrun : ∀ task began, .executed task began ∈ between → task.name ≠ a.name)
    (hstart : ∀ interval now, .did (.started a.name interval now) ∉ between) :
    b.interval = a.interval ∧ Millis.plus first a.interval ≤ second := by
  obtain ⟨-, -, hafter⟩ := spaced_append.mp h
  obtain ⟨-, hnext, -⟩ := spaced_append.mp hafter
  rw [foldl_watch_of_quiet hrun hstart] at hnext
  exact hnext hname _ _ (if_pos rfl)

end Histories

/-! ### What is kept -/

/-- Every task of a macro waits for its interval after the run on watch; those in slots whose turn
is still to come were due when the pass began. -/
def Waits (name : String) (w : Watch) (began : Millis) (rest : List Nat) (t : TaskTable) : Prop :=
  ∀ first interval, w = some (first, interval) → t.Each name fun slot task =>
    task.interval = interval ∧ Millis.plus first interval ≤ task.nextDue ∧
      (slot ∈ rest → task.nextDue ≤ began)

/-- The same in the middle of a turn, for all tasks but the one in its slot.  That one is about to
be timed anew, and the run on watch is no later than the pass. -/
def MidTurn (name : String) (w : Watch) (turn : Turn) (rest : List Nat) (t : TaskTable) : Prop :=
  ∀ first interval, w = some (first, interval) → t.Each name fun slot task =>
    task.interval = interval ∧
      (slot = turn.slot → Millis.plus first interval ≤ Millis.plus turn.began interval) ∧
      (slot ≠ turn.slot → Millis.plus first interval ≤ task.nextDue ∧
        (slot ∈ rest → task.nextDue ≤ turn.began))

/-- What a history leaves: everything in it was on time, and what comes will be. -/
structure OnTrack (name : String) (w : Watch) (hs : List Happening) (began : Millis)
    (rest : List Nat) (t : TaskTable) : Prop where
  spaced : Spaced name w hs
  sound  : t.Sound
  waits  : Waits name (hs.foldl (watch name) w) began rest t

section Turns
variable {name : String} {w : Watch} {rest : List Nat}

theorem MidTurn.of_waits {turn : Turn} {t : TaskTable}
    (h : Waits name w turn.began (turn.slot :: rest) t) : MidTurn name w turn rest t := by
  intro first interval hw slot task htask hname
  obtain ⟨hinterval, hwait, hdue⟩ := h first interval hw slot task htask hname
  refine ⟨hinterval, ?_, fun _ => ⟨hwait, fun hmem => hdue (List.mem_cons_of_mem _ hmem)⟩⟩
  rintro rfl
  calc Millis.plus first interval
    _ ≤ task.nextDue := hwait
    _ ≤ turn.began := hdue List.mem_cons_self
    _ ≤ Millis.plus turn.began interval := Millis.le_plus _ _

/-- The task that a turn runs is the only one of its macro. -/
theorem MidTurn.of_executed {turn : Turn} {task : Task} {body : String}
    (h : turn.executed? = some (task, body)) (hsound : turn.before.tasks.Sound) :
    MidTurn task.name (some (turn.began, task.interval)) turn rest turn.before.tasks := by
  rintro first interval hw slot other hother hname
  cases hw
  have htask := (Turn.executed?_eq_some.mp h).1
  obtain rfl : slot = turn.slot := hsound.distinct hother htask hname
  cases hother.symm.trans htask
  exact ⟨rfl, fun _ => UInt64.le_refl _, fun hne => absurd rfl hne⟩

/-- Events leave what is known of a macro's tasks under the watch, or else they clear it. -/
theorem watched_replay {P : Millis → Millis → Nat → Task → Prop} {t : TaskTable}
    (h : ∀ first interval, w = some (first, interval) → t.Each name (P first interval))
    (log : List TaskEvent) :
    ∀ first interval, (log.map .did).foldl (watch name) w = some (first, interval) →
      (t.replay log).Each name (P first interval) := by
  intro first interval hw
  rcases @foldl_watch_did name w log with hnone | ⟨hlog, hsame⟩
  · cases hnone.symm.trans hw
  · exact (h first interval (hsame.symm.trans hw)).replay hlog

/-- Closing a turn puts off when the task in the slot is due, or leaves no task there. -/
theorem MidTurn.closed {turn : Turn} {d : Console} (h : MidTurn name w turn rest d.tasks)
    (hcloses : turn.Closes d turn.after) (hslot : turn.slot ∉ rest) :
    Waits name w turn.began rest turn.after.tasks := by
  intro first interval hw slot task htask hname
  by_cases heq : slot = turn.slot
  · subst heq
    obtain ⟨left, hleft, rfl⟩ := hcloses.own task htask
    obtain ⟨rfl, hown, -⟩ := h first interval hw _ left hleft hname
    exact ⟨rfl, hown rfl, fun hmem => absurd hmem hslot⟩
  · rw [hcloses.others slot heq] at htask
    obtain ⟨hinterval, -, hother⟩ := h first interval hw slot task htask hname
    exact ⟨hinterval, hother heq⟩

/-- **What a turn keeps.** -/
theorem onTrack_turn (turn : Turn) (hsound : turn.before.tasks.Sound)
    (h : Waits name w turn.began (turn.slot :: rest) turn.before.tasks)
    (hslot : turn.slot ∉ rest) :
    OnTrack name w turn.history turn.began rest turn.after.tasks := by
  obtain ⟨d, hfollows, hcloses⟩ := turn.exists_closes
  have hafter : turn.after.tasks.Sound :=
    hcloses.sound (hfollows.tasks ▸ hsound.replay turn.bodyLog)
  have hbody : ∀ {v : Watch}, MidTurn name v turn rest turn.before.tasks →
      MidTurn name ((turn.bodyLog.map .did).foldl (watch name) v) turn rest d.tasks :=
    fun hmid => hfollows.tasks ▸ watched_replay hmid turn.bodyLog
  cases hexecuted : turn.executed? with
  | none =>
      have hhistory : turn.history = turn.bodyLog.map .did := by
        rw [Turn.history, hexecuted]
        rfl
      rw [hhistory]
      exact ⟨spaced_did _, hafter, MidTurn.closed (hbody (.of_waits h)) hcloses hslot⟩
  | some found =>
      obtain ⟨task, body⟩ := found
      have htask := (Turn.executed?_eq_some.mp hexecuted).1
      have hhistory : turn.history = .executed task turn.began :: turn.bodyLog.map .did := by
        rw [Turn.history, hexecuted]
        rfl
      have hnow : OnTime name w (.executed task turn.began) := fun hname first interval hw => by
        obtain ⟨hinterval, hwait, hdue⟩ := h first interval hw turn.slot task htask hname
        exact ⟨hinterval, UInt64.le_trans hwait (hdue List.mem_cons_self)⟩
      rw [hhistory]
      refine ⟨⟨hnow, spaced_did _⟩, hafter, ?_⟩
      -- If it is the macro's own task that is run, the watch is on this run; else it is unchanged.
      have hmid : MidTurn name (watch name w (.executed task turn.began)) turn rest
          turn.before.tasks := by
        by_cases hname : task.name = name
        · subst hname
          rw [watch, if_pos rfl]
          exact .of_executed hexecuted hsound
        · rw [watch, if_neg hname]
          exact .of_waits h
      exact MidTurn.closed (hbody hmid) hcloses hslot

theorem onTrack_turns {began : Millis} {slots : List Nat} {c : Console} (hsound : c.tasks.Sound)
    (h : Waits name w began slots c.tasks) (hslots : slots.Nodup) :
    OnTrack name w ((turns began slots c).flatMap Turn.history) began []
      (slots.foldl (runTask began) c).tasks := by
  induction slots generalizing c w with
  | nil => exact ⟨trivial, hsound, h⟩
  | cons slot slots ih =>
      rw [List.nodup_cons] at hslots
      let turn : Turn := ⟨began, slot, c⟩
      obtain ⟨hfirst, hafter, hwaits⟩ := onTrack_turn turn hsound h hslots.1
      obtain ⟨hrest, hend, hlast⟩ := ih hafter hwaits hslots.2
      refine ⟨spaced_append.mpr ⟨hfirst, hrest⟩, hend, ?_⟩
      rw [turns, List.flatMap_cons, List.foldl_append]
      exact hlast

end Turns

/-! ### Sessions -/

section Sessions
variable {name : String} {w : Watch}

/-- The slots that are due when a pass begins are those of tasks that are. -/
theorem Waits.due {t : TaskTable} {other : Millis} (h : Waits name w other [] t)
    (hnumbered : t.Numbered) (began : Millis) : Waits name w began (t.due began) t := by
  intro first interval hw slot task htask hname
  obtain ⟨hinterval, hwait, -⟩ := h first interval hw slot task htask hname
  refine ⟨hinterval, hwait, fun hmem => ?_⟩
  obtain ⟨due, hdue, hle⟩ := (TaskTable.mem_due hnumbered).mp hmem
  cases hdue.symm.trans htask
  exact hle

theorem onTrack_command (line : String) {began : Millis} {c : Console} (hsound : c.tasks.Sound)
    (h : Waits name w began [] c.tasks) :
    OnTrack name w (Operation.history (.command line) c) began [] (doCommand line c).tasks := by
  have htasks : (doCommand line c).tasks
      = c.tasks.replay (executeLog line { c with depth := 0 }) := by
    rw [doCommand, ← (execute_tells line { c with depth := 0 }).tasks]
    cases execute line { c with depth := 0 } <;> rfl
  rw [htasks]
  exact ⟨spaced_did _, hsound.replay _, watched_replay h _⟩

theorem onTrack_pass {other : Millis} {c : Console} (hsound : c.tasks.Sound)
    (h : Waits name w other [] c.tasks) :
    OnTrack name w (Operation.history .pass c) c.host.readClock.1 []
      (runBackgroundTasks c).2.tasks :=
  onTrack_turns (c := { c with host := c.host.readClock.2 }) hsound
    (h.due hsound.numbered c.host.readClock.1)
    ((TaskTable.due_sorted hsound.numbered _).imp Nat.ne_of_lt)

/-- Nothing in a session comes before its time. -/
theorem spaced_session (ops : List Operation) {began : Millis} {c : Console}
    (hsound : c.tasks.Sound) (h : Waits name w began [] c.tasks) :
    Spaced name w (sessionHistory ops c) := by
  induction ops generalizing c w began with
  | nil => exact trivial
  | cons op ops ih =>
      -- The induction needs the table only between operations, where no slot's turn is to come.
      have hop : ∃ now, OnTrack name w (op.history c) now [] (op.run c).tasks := by
        cases op with
        | command line => exact ⟨began, onTrack_command line hsound h⟩
        | pass => exact ⟨_, onTrack_pass hsound h⟩
      obtain ⟨_, hspaced, hafter, hwaits⟩ := hop
      exact spaced_append.mpr ⟨hspaced, ih hafter hwaits⟩

end Sessions

/-- **A task never runs more often than its interval.**  In every session that a fresh console
goes through, where a macro is run as a task by a pass that began at `first` and is next run as a
task by one that began at `second`, without being started in between, its interval is the same and
lies between the two, up to the largest reading there is. -/
theorem task_runs_spaced {host : Host} {functions : FunctionTable} {slots : Nat}
    {idleInterval : Duration} {ops : List Operation} {front between back : List Happening}
    {a b : Task} {first second : Millis}
    (h : sessionHistory ops (.new host functions slots idleInterval)
      = front ++ .executed a first :: (between ++ .executed b second :: back))
    (hname : b.name = a.name)
    (hrun : ∀ task began, .executed task began ∈ between → task.name ≠ a.name)
    (hstart : ∀ interval now, .did (.started a.name interval now) ∉ between) :
    b.interval = a.interval ∧
      min (first.toNat + a.interval.toNat) (2 ^ 64 - 1) ≤ second.toNat := by
  have hspaced : Spaced a.name none
      (sessionHistory ops (.new host functions slots idleInterval)) :=
    @spaced_session _ _ ops 0 _ (TaskTable.sound_empty slots) nofun
  rw [h] at hspaced
  obtain ⟨hinterval, hwait⟩ := hspaced.of_next hname hrun hstart
  rw [UInt64.le_iff_toNat_le, Millis.toNat_plus] at hwait
  exact ⟨hinterval, hwait⟩

/-- A console on a board whose source moves on by a second a sample, once it has shown some of them
and the clock has been read. -/
def ticking (taken : Nat) (latest : Millis) (tasks : List (Option Task)) : Console :=
  { small with
    host  := { small.host with
      clock   := ⟨fun n _ => ⟨UInt64.ofNat n, 0⟩, taken, .zero, .zero, latest⟩
      storage := ⟨Storage.encodeEntry "a" ""⟩ }
    tasks := ⟨tasks⟩ }

/-- The only task there is runs an empty body. -/
theorem history_of_empty_body {c : Console} {task : Task}
    (hdue : c.tasks.due c.host.readClock.1 = [0]) (htask : c.tasks.get? 0 = some task)
    (hbody : c.host.storage.body? task.name = some "") :
    Operation.pass.history c = [.executed task c.host.readClock.1] ∧
      Operation.pass.run c = { c with
        host  := c.host.readClock.2.readClock.2
        tasks := c.tasks.rearm 0 c.host.readClock.1 } := by
  have htokens : tokenize "" = .ok [] := by cbv
  let turn : Turn := ⟨c.host.readClock.1, 0, { c with host := c.host.readClock.2 }⟩
  have hexecuted : turn.executed? = some (task, "") := Turn.executed?_eq_some.mpr ⟨htask, hbody⟩
  have hlog : turn.bodyLog = [] := by
    rw [Turn.bodyLog_eq hexecuted, executeLog_of_isProgram htokens .nil]
    rfl
  constructor
  · show (passTurns c).flatMap Turn.history = _
    rw [passTurns, hdue]
    show turn.history ++ [] = _
    rw [Turn.history, hexecuted, hlog]
    rfl
  · have hafter : turn.after = { turn.before with
        tasks := turn.before.tasks.rearm 0 c.host.readClock.1 } := by
      rw [Turn.after, runTask, show turn.before.tasks.get? turn.slot = some task from htask]
      simp only [show turn.before.host.storage.body? task.name = some "" from hbody,
        execute_of_isProgram htokens .nil]
      rfl
    show (runBackgroundTasks c).2 = _
    simp only [runBackgroundTasks, hdue]
    show { turn.after with host := turn.after.host.readClock.2 } = _
    rw [hafter]

/-- Two runs two seconds apart, where the interval is two seconds. -/
theorem task_runs_spaced_ticking :
    sessionHistory [.command "run a, 2000", .pass, .pass]
        (.new (ticking 1 0 [none]).host small.functions 1 .zero)
      = [.did (.started "a" 2000 1000), .executed ⟨0, "a", 2000, 1000⟩ 2000,
        .executed ⟨0, "a", 2000, 4000⟩ 4000] ∧
    min ((2000 : Millis).toNat + (2000 : Millis).toNat) (2 ^ 64 - 1) ≤ (4000 : Millis).toNat := by
  have htokens : tokenize "run a, 2000" = .ok [.ident "run", .ident "a", .comma, .num 2000] := by
    cbv
  have hprogram : IsProgram [.ident "run", .ident "a", .comma, .num 2000]
      [.start "a" (some (.num 2000))] := .last (.startEvery "a" (.num 2000))
  have hlog : (Operation.command "run a, 2000").history (ticking 1 0 [none])
      = [.did (.started "a" 2000 1000)] := by
    show (executeLog _ _).map _ = _
    rw [executeLog_of_isProgram htokens hprogram]
    cbv
  have hrun : (Operation.command "run a, 2000").run (ticking 1 0 [none])
      = ticking 2 1000 [some ⟨0, "a", 2000, 1000⟩] := by
    show doCommand _ _ = _
    rw [doCommand, execute_of_isProgram htokens hprogram]
    cbv
  obtain ⟨hfirst, hthen⟩ := @history_of_empty_body (ticking 2 1000 [some ⟨0, "a", 2000, 1000⟩])
    ⟨0, "a", 2000, 1000⟩ (by cbv) rfl (by cbv)
  have hnext : Operation.pass.run (ticking 2 1000 [some ⟨0, "a", 2000, 1000⟩])
      = ticking 4 3000 [some ⟨0, "a", 2000, 4000⟩] := by
    rw [hthen]
    cbv
  obtain ⟨hsecond, -⟩ := @history_of_empty_body (ticking 4 3000 [some ⟨0, "a", 2000, 4000⟩])
    ⟨0, "a", 2000, 4000⟩ (by cbv) rfl (by cbv)
  have hhistory : sessionHistory [.command "run a, 2000", .pass, .pass]
        (.new (ticking 1 0 [none]).host small.functions 1 .zero)
      = [.did (.started "a" 2000 1000), .executed ⟨0, "a", 2000, 1000⟩ 2000,
        .executed ⟨0, "a", 2000, 4000⟩ 4000] := by
    show sessionHistory _ (ticking 1 0 [none]) = _
    simp only [sessionHistory, hlog, hrun, hfirst, hnext, hsecond]
    cbv
  have hspaced := @task_runs_spaced _ _ _ _ _ [.did (.started "a" 2000 1000)] [] [] _ _ _ _
    hhistory rfl (fun _ _ h => absurd h List.not_mem_nil) (fun _ _ => List.not_mem_nil)
  exact ⟨hhistory, hspaced.2⟩

end BoardConsole.Console
