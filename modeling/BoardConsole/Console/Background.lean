import BoardConsole.Console
import BoardConsole.Interpreter

/-!
# Console — Background passes

A pass runs the macro of every task that was due when it began, in the order of slots. A task that
ends well is due again one interval after the beginning of the pass; one whose macro is gone or
whose line fails is stopped, and its error printed. The pass answers when the next one is wanted:
when the next task is due, and after the idle interval at the latest.
-/

namespace BoardConsole.Console

/-- Gives the task in a slot its turn in a pass that began at `began`. -/
def runTask (began : Millis) (c : Console) (id : Nat) : Console :=
  match c.tasks.get? id with
  | none => c
  | some task =>
    match c.host.storage.body? task.name with
    | none => { c with tasks := (c.tasks.stop id).2 }
    | some body =>
      match execute body c with
      | .ok _ c    => { c with tasks := c.tasks.rearm id began }
      | .error e c =>
        let c := c.report e
        { c with tasks := (c.tasks.stop id).2 }

/-- The time until the next pass is wanted, at `now`. -/
def nextPass (c : Console) (now : Millis) : Deadline :=
  let idle := Deadline.ofDuration c.idleInterval
  match c.tasks.nextDeadline now with
  | some wait => ⟨min wait idle.millis⟩
  | none      => idle

/-- Runs every task that is due. -/
def runBackgroundTasks (c : Console) : Deadline × Console :=
  let (began, host) := c.host.readClock
  let c := { c with host }
  let c := (c.tasks.due began).foldl (runTask began) c
  let (now, host) := c.host.readClock
  let c := { c with host }
  (c.nextPass now, c)

instance : Interpreter Console where
  runBackgroundTasks c :=
    let (deadline, c) := runBackgroundTasks c
    (.returned deadline, c)
  doCommand := doCommand

end BoardConsole.Console
