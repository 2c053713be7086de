import BoardConsole.ExecutionLock
import BoardConsole.Lines.Buffer
import BoardConsole.Text.Blank

/-!
# The foreground loop

Reads lines and hands each one that is not blank to the interpreter, under its lock, until the
input ends or fails. What is left unfinished by a failure is not handed over.
-/

namespace BoardConsole

/-- Why the loop ended. -/
inductive LoopEnd where
  | endOfInput
  | readError
deriving DecidableEq, Repr

/-- What the loop did. -/
structure LoopSummary where
  /-- The lines handed over, in a counter that wraps. -/
  dispatched : UInt64
  endedBy    : LoopEnd
deriving DecidableEq, Repr

namespace Foreground

/-- Hands over the lines of an input, after `dispatched` others. -/
def runFrom {σ : Type} (dispatch : String → σ → σ) (buffer : LineBuffer) (dispatched : UInt64)
    (input : Input) (s : σ) : LoopSummary × σ :=
  match _h : (buffer.fill input).more with
  | .error _   => (⟨dispatched, .readError⟩, s)
  | .ok false  => (⟨dispatched, .endOfInput⟩, s)
  | .ok true   =>
    let filled := buffer.fill input
    let line := filled.buffer.line
    if Text.isBlankText line then runFrom dispatch filled.buffer.reset dispatched filled.rest s
    else runFrom dispatch filled.buffer.reset (dispatched + 1) filled.rest (dispatch line s)
termination_by input.size
decreasing_by
  · exact LineBuffer.size_fill _h
  · exact LineBuffer.size_fill _h

/-- Hands over the lines of an input. -/
def run {σ : Type} (dispatch : String → σ → σ) (maxLen : Nat) (input : Input) (s : σ) :
    LoopSummary × σ :=
  runFrom dispatch (.new maxLen) 0 input s

/-- Runs the lines of an input under a lock. -/
def runLocked {ι : Type} [Interpreter ι] (maxLen : Nat) (input : Input) (lock : ExecutionLock ι) :
    LoopSummary × ExecutionLock ι :=
  run (fun line lock => lock.doCommand line) maxLen input lock

end Foreground

end BoardConsole
