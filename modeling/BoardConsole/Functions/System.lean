import BoardConsole.Functions.Table
import BoardConsole.Shell

/-!
# Functions — The operating system

Running a command, ending the program, and writing the listing to a file. What a script is expected
to test comes back as a number: a command that cannot run as -1, a file that cannot be written as 0.
-/

namespace BoardConsole.System

/-- The longest command that can be handed over, in bytes. -/
def longestCommand : Nat := 131071

/-- What stands for the status of a command that has none: it could not be handed over, or a signal
ended it. -/
def noStatus : Int32 := -1

/-- Runs the command of the first argument in a shell and answers its exit status. -/
def systemThrough (shell : Volume → String → Shell.Result) : Function := fun inv => do
  match inv.text? 1 with
  | none => return noStatus
  | some command =>
    if command.contains '\x00' || longestCommand < Text.Utf8.size command then return noStatus
    let h ← get
    let result := shell h.volume command
    let printed := (h.output.onSink 0 (·.writeAll result.output)).2
    set { h with volume := result.volume, output := printed }
    return match result.status? with
      | some status => Int32.ofNat status
      | none        => noStatus

/-- Ends the program with the code of the first argument, or zero. -/
def exit : Function := fun inv => do
  modify (·.exit ((inv.num? 1).getD 0))
  return 0

/-- Writes the listing to the file of the first argument, or to the default file; what stands at a
place takes bytes as `devices` says. -/
def saveThrough (devices : Place → Device) : Function := fun inv => do
  let h ← get
  let (saved, h) := h.saveThrough devices inv.listing ((inv.text? 1).getD h.defaultFile)
  set h
  return if saved then 1 else 0

/-- Writes the listing to the file of the first argument, or to the default file. -/
def save : Function := saveThrough Host.deviceAt

/-- The functions of an operating system with some shell, by name. -/
def allThrough (shell : Volume → String → Shell.Result) : List (String × Function) :=
  [("system", systemThrough shell), ("exit", exit), ("save", save)]

/-- The functions of the operating system, by name. -/
def all : List (String × Function) := allThrough Shell.run

end BoardConsole.System
