import BoardConsole.Functions.Hardware
import BoardConsole.Functions.System

/-!
# Functions — The standard tables

The tables that a console is built with.
-/

namespace BoardConsole.FunctionTable

/-- The table with the functions of the operating system added. -/
def withSystem (t : FunctionTable) : FunctionTable := t.registerAll System.all

/-- The table with the functions of the board added. -/
def withHardware (t : FunctionTable) : FunctionTable := t.registerAll Hardware.all

/-- Every function there is, on an operating system with some shell. -/
def standardThrough (shell : Volume → String → Shell.Result) : FunctionTable :=
  (empty.registerAll (System.allThrough shell)).withHardware

/-- Every function there is. -/
def standard : FunctionTable := standardThrough Shell.run

end BoardConsole.FunctionTable
