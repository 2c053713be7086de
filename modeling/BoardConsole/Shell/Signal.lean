/-!
# Shell — Signals

The names and numbers of signals, and what they do to a process that does not handle them.
-/

namespace BoardConsole.Shell.Signal

/-- The signals in the order of their numbers, from one on. -/
def names : List String :=
  ["HUP", "INT", "QUIT", "ILL", "TRAP", "ABRT", "BUS", "FPE", "KILL", "USR1", "SEGV", "USR2",
   "PIPE", "ALRM", "TERM", "STKFLT", "CHLD", "CONT", "STOP", "TSTP", "TTIN", "TTOU", "URG", "XCPU",
   "XFSZ", "VTALRM", "PROF", "WINCH", "POLL", "PWR", "SYS"]

/-- The greatest number of a signal. -/
def greatest : Nat := 64

/-- The name of a signal; that of the end of a shell for zero. -/
def nameOf (signal : Nat) : String :=
  match signal with
  | 0     => "EXIT"
  | n + 1 => (names[n]?).getD (toString signal)

/-- The signal of a name or a number; zero stands for the end of a shell. -/
def ofText? (s : String) : Option Nat :=
  match s.toNat? with
  | some n => if n ≤ greatest then some n else none
  | none =>
    if s.toUpper = "EXIT" then some 0
    else (names.findIdx? (· = s.toUpper)).map (· + 1)

/-- Signals that do nothing to a process that does not handle them. -/
def isHarmless (signal : Nat) : Bool := [0, 17, 18, 23, 28].contains signal

/-- Signals that no process can handle. -/
def isCertain (signal : Nat) : Bool := signal == 9 || signal == 19

/-- The status of a process that a signal ended. -/
def status (signal : Nat) : Nat := 128 + signal

/-- What is written when a signal ended a process. -/
def report? (signal : Nat) : Option String :=
  [(1, "Hangup"), (3, "Quit"), (4, "Illegal instruction"), (5, "Trace/breakpoint trap"),
   (6, "Aborted"), (7, "Bus error"), (8, "Floating point exception"), (9, "Killed"),
   (10, "User defined signal 1"), (11, "Segmentation fault"), (12, "User defined signal 2"),
   (14, "Alarm clock"), (15, "Terminated")].lookup signal

end BoardConsole.Shell.Signal
