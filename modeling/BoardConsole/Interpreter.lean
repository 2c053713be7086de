import BoardConsole.Time.Deadline

/-!
# Interpreters

What the background scheduler and the foreground loop need of an interpreter: the one asks it to
run the tasks that are due, the other hands it command lines.
-/

namespace BoardConsole

/-- How a run of tasks ends. -/
inductive Ending (α : Type) where
  | returned (a : α)
  /-- The run was broken off, with its effects so far in place. -/
  | panicked
deriving DecidableEq, Repr

/-- An interpreter with state `ι`. -/
class Interpreter (ι : Type) where
  /-- Runs every task that is due and answers when to call again. -/
  runBackgroundTasks : ι → Ending Deadline × ι
  /-- Runs one command line. -/
  doCommand : (line : String) → ι → ι

end BoardConsole
