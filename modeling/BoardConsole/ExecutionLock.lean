import BoardConsole.Interpreter

/-!
# The execution lock

The lock owns an interpreter: its state is touched only inside `hold`, which one caller at a time
runs. An action that is broken off poisons the lock; the next holder goes on with the state that it
left.
-/

namespace BoardConsole

/-- A value behind a lock. -/
structure ExecutionLock (ι : Type) where
  value      : ι
  isHeld     : Bool
  isPoisoned : Bool

namespace ExecutionLock

/-- A value put behind a lock. -/
def guard {ι : Type} (value : ι) : ExecutionLock ι := ⟨value, false, false⟩

/-- Takes the lock, whether it is poisoned or not. -/
def acquire {ι : Type} (lock : ExecutionLock ι) : ExecutionLock ι :=
  { lock with isHeld := true, isPoisoned := false }

/-- Gives the lock back after an action has ended. -/
def release {ι α : Type} (lock : ExecutionLock ι) (ending : Ending α) : ExecutionLock ι :=
  match ending with
  | .returned _ => { lock with isHeld := false }
  | .panicked   => { lock with isHeld := false, isPoisoned := true }

/-- Runs an action that sees the lock it holds. -/
def holding {ι α : Type} (lock : ExecutionLock ι)
    (action : ExecutionLock ι → Ending α × ExecutionLock ι) : Ending α × ExecutionLock ι :=
  let (ending, lock) := action lock.acquire
  (ending, lock.release ending)

/-- Runs an action on the value. -/
def hold {ι α : Type} (lock : ExecutionLock ι) (action : ι → Ending α × ι) :
    Ending α × ExecutionLock ι :=
  lock.holding fun held =>
    let (ending, value) := action held.value
    (ending, { held with value })

/-- Runs a command line under the lock. -/
def doCommand {ι : Type} [Interpreter ι] (lock : ExecutionLock ι) (line : String) :
    ExecutionLock ι :=
  (lock.hold fun value => (.returned (), Interpreter.doCommand line value)).2

end ExecutionLock

end BoardConsole
