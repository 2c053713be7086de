import BoardConsole.Config
import BoardConsole.Time.DurationText
import BoardConsole.Toml.Quoted

/-!
# Configuration — Writing

Every setting of a configuration as a document, part by part. A number that passes the largest whole
number of a document cannot be written.
-/

namespace BoardConsole.Config

/-- A text in quotes. -/
def quoted (text : String) : String := String.ofList (Toml.Quoted.quote text.toList)

/-- A whole number, where a document can hold it. -/
def number? (n : Nat) : Option String := if n < Nat.pow 2 63 then some (toString n) else none

/-- The line of a setting. -/
def settingLine (key value : String) : String := key ++ " = " ++ value ++ "\n"

/-- The header of a part and the lines of its settings. -/
def partText (name : String) (settings : List (String × String)) : String :=
  "[" ++ name ++ "]\n" ++ String.join (settings.map fun (key, value) => settingLine key value)

/-- A configuration as a document. -/
def toToml (c : Config) : Option String := do
  let size ← number? c.storageSize
  let maxTasks ← number? c.maxTasks
  let maxLineLen ← number? c.maxLineLen
  return "\n".intercalate [
    partText "clock" [("source", quoted c.clockSource.name)],
    partText "scheduler" [
      ("thread_name", quoted c.scheduler.threadName),
      ("max_immediate_reruns", toString c.scheduler.maxImmediateReruns.toNat),
      ("zero_deadline_backoff", quoted c.scheduler.zeroDeadlineBackoff.text)],
    partText "storage" [("size", size)],
    partText "pins" [("count", toString c.pinCount.toNat)],
    partText "console" [
      ("idle_interval", quoted c.idleInterval.text),
      ("max_tasks", maxTasks),
      ("max_line_len", maxLineLen)],
    partText "save" [("default_file", quoted c.defaultFile)]]

end BoardConsole.Config
