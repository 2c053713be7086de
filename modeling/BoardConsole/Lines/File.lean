import BoardConsole.Lines.Input
import BoardConsole.Volume

/-!
# Lines — Files

A file as an input. A directory can be opened too, but reading it fails.
-/

namespace BoardConsole.Volume

/-- The input of a file; nothing where it cannot be opened. -/
def openInput? (v : Volume) (name : String) : Option Input :=
  match v.read name with
  | .ok bytes            => some (.ofBytes bytes)
  | .error .isADirectory => some [.failure .isADirectory]
  | .error _             => none

end BoardConsole.Volume
