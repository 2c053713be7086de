import BoardConsole.Scheduler
import BoardConsole.Time.Clock

/-!
# Configuration

The settings of a board, with their defaults and the ranges that `validate` checks.
-/

namespace BoardConsole

/-- The settings of a board. -/
structure Config where
  /-- The source that the clock is read from. -/
  clockSource  : ClockSource
  scheduler    : SchedulerConfig
  /-- The bytes of the storage. -/
  storageSize  : Nat
  /-- The pins of the bank. -/
  pinCount     : UInt32
  /-- The longest time between two background passes. -/
  idleInterval : Duration
  /-- The slots of the task table. -/
  maxTasks     : Nat
  /-- The longest line that is run whole, in bytes. -/
  maxLineLen   : Nat
  /-- The file that the listing is saved to where none is named. -/
  defaultFile  : String
deriving DecidableEq, Repr

/-- Why there is no configuration. -/
inductive ConfigError where
  /-- The file cannot be read. -/
  | unreadable (path reason : String)
  /-- The text is not well-formed, or a value not of the right kind. -/
  | malformed
  /-- A duration is one second longer than the longest. -/
  | tooLong
  /-- A setting is out of its range. -/
  | pinCount (got : UInt32)
  | storageSize
  | maxImmediateReruns
  | zeroDeadlineBackoff
deriving DecidableEq, Repr

namespace ConfigError

/-- The words for an error. -/
def message : ConfigError → String
  | unreadable path reason => s!"failed to read config file {path}: {reason}"
  | malformed              => "failed to parse TOML"
  | tooLong                => "overflow in a duration"
  | pinCount got           =>
    s!"invalid configuration: pins.count must be in 1..=64, got {got.toNat}"
  | storageSize            => "invalid configuration: storage.size must be non-zero"
  | maxImmediateReruns     =>
    "invalid configuration: scheduler.max_immediate_reruns must be at least 1"
  | zeroDeadlineBackoff    =>
    "invalid configuration: scheduler.zero_deadline_backoff must be non-zero"

end ConfigError

namespace Config

/-- The settings of a board where nothing is set. -/
def standard : Config where
  clockSource  := .monotonic
  scheduler    :=
    { threadName          := "background"
      maxImmediateReruns  := 64
      zeroDeadlineBackoff := .ofMillis 1 }
  storageSize  := 4096
  pinCount     := 64
  idleInterval := .ofMillis 100
  maxTasks     := 10
  maxLineLen   := 256
  defaultFile  := "eeprom"

/-- The first setting that is out of its range. -/
def validate (c : Config) : Except ConfigError Unit :=
  if c.pinCount = 0 ∨ 64 < c.pinCount then .error (.pinCount c.pinCount)
  else if c.storageSize = 0 then .error .storageSize
  else if c.scheduler.maxImmediateReruns = 0 then .error .maxImmediateReruns
  else if c.scheduler.zeroDeadlineBackoff.isZero then .error .zeroDeadlineBackoff
  else .ok ()

end Config

end BoardConsole
