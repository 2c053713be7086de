import BoardConsole.Proofs.Lines.Filling
import BoardConsole.Proofs.Lines.Foreground

/-!
# Lines — A read that fails

A stream may deliver some bytes and then fail, by any fault but an interruption.  The lines of which
the newline was delivered are `finished`; what stands behind the last of these newlines is the
beginning of a line that never ends.

* `run_stops_at_fault`: the loop hands over the finished lines, as it would if the stream ended
  behind the last of them, and ends with the failure.  Nothing of the unfinished line is handed over,
  wherever in it the fault is met: while it is stored, or while the rest of it is passed over.
-/

namespace BoardConsole

namespace Input

/-- The bytes up to and including the last newline. -/
def finished (bytes : List UInt8) : List UInt8 := bytes.rdropWhile (· != newline)

/-- Lines with their newlines are finished, and what stands behind the last newline is not. -/
theorem finished_ended (lines : List (List UInt8)) {rest : List UInt8} (h : newline ∉ rest) :
    finished (ended lines ++ rest) = ended lines := by
  have hrest : ∀ b ∈ rest.reverse, (b != newline) = true := fun b hb =>
    bne_iff_ne.mpr fun heq => h (heq ▸ List.mem_reverse.mp hb)
  have hdrop : finished (ended lines ++ rest) = finished (ended lines) := by
    rw [finished, finished, List.rdropWhile, List.reverse_append,
      List.dropWhile_append_of_pos hrest]
    rfl
  rw [hdrop]
  rcases List.eq_nil_or_concat' lines with rfl | ⟨init, line, rfl⟩
  · rfl
  · rw [ended_concat, finished, List.rdropWhile_concat_neg _ _ _ (by simp)]

/-- The finished lines, and the beginning of one that is not. -/
theorem exists_unfinished (bytes : List UInt8) :
    ∃ rest, bytes = finished bytes ++ rest ∧ newline ∉ rest := by
  obtain ⟨lines, rest, rfl, -, hrest⟩ := exists_ended bytes
  exact ⟨rest, by rw [finished_ended lines hrest], hrest⟩

end Input

namespace Foreground
open LineBuffer Input

section Failing
variable {σ : Type} {dispatch : String → σ → σ} {maxLen : Nat} {fault : ReadFault}

theorem runFrom_of_fault {buffer : LineBuffer} {input : Input}
    (h : (buffer.fill input).more = .error fault) (n : UInt64) (s : σ) :
    runFrom dispatch buffer n input s = (⟨n, .readError⟩, s) := by
  unfold runFrom
  split
  · rfl
  · rename_i hmore
    rw [h] at hmore
    cases hmore
  · rename_i hmore
    rw [h] at hmore
    cases hmore

/-- The loop over a stream that fails: the finished lines, and then the fault. -/
theorem runFrom_failing {front : Input} (hfront : Unbroken front) (hfault : fault ≠ .interrupted)
    (tail : Input) (n : UInt64) (s : σ) :
    runFrom dispatch (new maxLen) n (front ++ .failure fault :: tail) s
      = (⟨n + .ofNat (linesOf maxLen (finished front.bytes)).length, .readError⟩,
        handOver dispatch (linesOf maxLen (finished front.bytes)) s) := by
  obtain ⟨lines, part, hbytes, hlines, hpart⟩ := exists_ended front.bytes
  obtain ⟨rest, hrest, hmore, hrun⟩ :=
    @runFrom_ended _ dispatch maxLen _ hlines _ hfront _ hbytes (.failure fault :: tail) n s
  have hbroken := fill_broken (new maxLen) hrest (hmore ▸ hpart) hfault tail
  rw [hrun, runFrom_of_fault hbroken, hbytes, finished_ended lines hpart]

end Failing

/-- **A failing read loses only the unfinished line.**  However a stream is cut into chunks and
wherever reads of it are interrupted, if it delivers some bytes and then fails, the loop hands over, in
order and once each, the finished lines that are not blank, and ends with the failure; whatever
stands behind the fault is not read.  It is the run over a stream that ends behind the last finished
line, but for how it ends.  What is not handed over has no newline in it. -/
theorem run_stops_at_fault {front : Input} (hfront : Unbroken front) {fault : ReadFault}
    (hfault : fault ≠ .interrupted) (tail : Input) (maxLen : Nat) :
    (∀ {σ : Type} (dispatch : String → σ → σ) (s : σ),
      run dispatch maxLen (front ++ .failure fault :: tail) s
        = (⟨.ofNat (linesOf maxLen (finished front.bytes)).length, .readError⟩,
          handOver dispatch (linesOf maxLen (finished front.bytes)) s) ∧
      ∀ whole : Input, Unbroken whole → whole.bytes = finished front.bytes →
        run dispatch maxLen (front ++ .failure fault :: tail) s
          = ({ (run dispatch maxLen whole s).1 with endedBy := .readError },
            (run dispatch maxLen whole s).2)) ∧
    (∀ {ι : Type} [Interpreter ι] (lock : ExecutionLock ι),
      (runLocked maxLen (front ++ .failure fault :: tail) lock).1
        = ⟨.ofNat (linesOf maxLen (finished front.bytes)).length, .readError⟩ ∧
      (runLocked maxLen (front ++ .failure fault :: tail) lock).2.value
        = handOver Interpreter.doCommand (linesOf maxLen (finished front.bytes)) lock.value) ∧
    ∃ rest, front.bytes = finished front.bytes ++ rest ∧ newline ∉ rest := by
  have hrun : ∀ {σ : Type} (dispatch : String → σ → σ) (s : σ),
      run dispatch maxLen (front ++ .failure fault :: tail) s
        = (⟨.ofNat (linesOf maxLen (finished front.bytes)).length, .readError⟩,
          handOver dispatch (linesOf maxLen (finished front.bytes)) s) := by
    intro σ dispatch s
    rw [run, runFrom_failing hfront hfault, UInt64.zero_add]
  refine ⟨fun dispatch s => ⟨hrun dispatch s, fun whole hwhole hbytes => ?_⟩, fun lock => ?_,
    exists_unfinished front.bytes⟩
  · have hends : run dispatch maxLen whole s
        = (⟨.ofNat (linesOf maxLen (finished front.bytes)).length, .endOfInput⟩,
          handOver dispatch (linesOf maxLen (finished front.bytes)) s) := by
      rw [run, runFrom_lines hwhole, UInt64.zero_add, hbytes]
    rw [hrun, hends]
  · rw [runLocked, hrun]
    exact ⟨rfl, value_handOver _ lock⟩

/-- Two finished lines, of which one is blank, in three chunks with an interruption; then more of a
line than the buffer has room for, and the fault while the rest of it is passed over. -/
def failing : Input :=
  [.chunk [108, 115], .failure .interrupted, .chunk [13, 10, 32, 10, 97, 98], .chunk [99, 100, 101]]

/-- The finished line that is not blank is handed over.  Neither the line that was cut off nor the
one behind the fault is. -/
theorem run_stops_at_fault_skipping :
    Unbroken failing ∧ ReadFault.brokenPipe ≠ .interrupted ∧
    run (fun line lines => lines ++ [line]) 2
        (failing ++ .failure .brokenPipe :: [.chunk [10, 112, 115, 10]]) []
      = (⟨1, .readError⟩, ["ls"]) ∧
    finished failing.bytes = [108, 115, 13, 10, 32, 10] := by
  have h : Unbroken failing := by simp [Unbroken, failing]
  have hfault : ReadFault.brokenPipe ≠ .interrupted := by decide
  have hfinished : finished failing.bytes = [108, 115, 13, 10, 32, 10] := by decide
  have hlines : linesOf 2 (finished failing.bytes) = ["ls"] := by
    rw [hfinished]
    cbv
  obtain ⟨hrun, -, -⟩ := run_stops_at_fault h hfault [.chunk [10, 112, 115, 10]] 2
  refine ⟨h, hfault, ?_, hfinished⟩
  rw [(hrun _ _).1, hlines]
  rfl

end Foreground

end BoardConsole
