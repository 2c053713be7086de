import BoardConsole.Config
import BoardConsole.Time.DurationText
import BoardConsole.Toml.Document
import BoardConsole.Volume

/-!
# Configuration — Reading

A configuration is a document with a part for each part of the board. The settings of a part are
given by name in a table, or by position in an array. They are made one after the other, in the order
of the document, on top of the defaults; what is unknown is passed over, and the first value of the
wrong kind makes the whole document malformed. A document that is well-formed is then validated.
-/

namespace BoardConsole.Config
open Toml (Value Entries)

/-! ### Values of settings -/

/-- A text. -/
def textOf : Value → Except ConfigError String
  | .string text => .ok text
  | _            => .error .malformed

/-- A whole number from zero up to a bound, the bound excluded. -/
def natOf (bound : Nat) : Value → Except ConfigError Nat
  | .integer n => if 0 ≤ n ∧ n < bound then .ok n.toNat else .error .malformed
  | _          => .error .malformed

/-- A word of 32 bits. -/
def word32Of (v : Value) : Except ConfigError UInt32 := (natOf (Nat.pow 2 32) v).map UInt32.ofNat

/-- A size. -/
def sizeOf : Value → Except ConfigError Nat := natOf (Nat.pow 2 64)

/-- A duration in words. -/
def durationOf (v : Value) : Except ConfigError Duration := do
  match Duration.ofText (← textOf v) with
  | .ok d              => .ok d
  | .error .malformed  => .error .malformed
  | .error .carry      => .error .tooLong

/-- The clock source of a name. -/
def clockSourceNamed (name : String) : Except ConfigError ClockSource :=
  match ClockSource.ofName? name with
  | some source => .ok source
  | none        => .error .malformed

/-- A clock source: its word, or a table with the word as its only key over nothing. -/
def clockSourceOf : Value → Except ConfigError ClockSource
  | .string name                   => clockSourceNamed name
  | .table _ [(name, .table _ [])] => clockSourceNamed name
  | .table _ [(name, .array [])]   => clockSourceNamed name
  | _                              => .error .malformed

/-! ### Settings -/

/-- Makes one setting; none where the part has no setting of that name. -/
def set (part key : String) (v : Value) (c : Config) : Except ConfigError Config :=
  match part, key with
  | "clock", "source"           => return { c with clockSource := ← clockSourceOf v }
  | "scheduler", "thread_name"  =>
    return { c with scheduler := { c.scheduler with threadName := ← textOf v } }
  | "scheduler", "max_immediate_reruns"  =>
    return { c with scheduler := { c.scheduler with maxImmediateReruns := ← word32Of v } }
  | "scheduler", "zero_deadline_backoff" =>
    return { c with scheduler := { c.scheduler with zeroDeadlineBackoff := ← durationOf v } }
  | "storage", "size"           => return { c with storageSize := ← sizeOf v }
  | "pins", "count"             => return { c with pinCount := ← word32Of v }
  | "console", "idle_interval"  => return { c with idleInterval := ← durationOf v }
  | "console", "max_tasks"      => return { c with maxTasks := ← sizeOf v }
  | "console", "max_line_len"   => return { c with maxLineLen := ← sizeOf v }
  | "save", "default_file"      => return { c with defaultFile := ← textOf v }
  | _, _                        => return c

/-- The settings of a part, in the order of their positions; none for a part that is unknown. -/
def keysOf? : (part : String) → Option (List String)
  | "clock"     => some ["source"]
  | "scheduler" => some ["thread_name", "max_immediate_reruns", "zero_deadline_backoff"]
  | "storage"   => some ["size"]
  | "pins"      => some ["count"]
  | "console"   => some ["idle_interval", "max_tasks", "max_line_len"]
  | "save"      => some ["default_file"]
  | _           => none

/-- The settings of a part by name. A date stands for a table without any of them. -/
def settingsOf (keys : List String) : Value → Except ConfigError (List (String × Value))
  | .table _ es   => .ok es
  | .array items  => .ok (keys.zip items)
  | .tables items => .ok (keys.zip (items.map (.table .header)))
  | .dateTime _   => .ok []
  | _             => .error .malformed

/-- Makes the settings of one part. -/
def setPart (c : Config) (part : String × Value) : Except ConfigError Config :=
  match keysOf? part.1 with
  | none      => .ok c
  | some keys => do
    (← settingsOf keys part.2).foldlM (fun c (key, v) => c.set part.1 key v) c

/-- The settings that a document holds, not validated. -/
def ofEntries (es : Entries) : Except ConfigError Config := es.foldlM setPart standard

/-- The configuration of a document. -/
def ofToml (text : String) : Except ConfigError Config :=
  match Toml.Document.read text with
  | none    => .error .malformed
  | some es => do
    let config ← ofEntries es
    config.validate
    return config

/-- The words for bytes that are no text. -/
def notText : String := "stream did not contain valid UTF-8"

/-- The configuration of the document in a file. -/
def ofFile (volume : Volume) (path : String) : Except ConfigError Config :=
  match volume.read path with
  | .error fault => .error (.unreadable path fault.message)
  | .ok bytes =>
    match Text.Utf8.decode? bytes with
    | none      => .error (.unreadable path notText)
    | some text => ofToml text

end BoardConsole.Config
