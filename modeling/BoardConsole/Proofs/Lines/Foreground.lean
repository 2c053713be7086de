import BoardConsole.Foreground
import BoardConsole.Proofs.Lines.Pieces

/-!
# Lines — The foreground loop

What the loop hands over is said of the bytes of its stream as a whole: the texts of their pieces,
but for those that are blank (`linesOf`).

* `runFrom_ended`: the loop over whole lines, whatever stands behind them in the stream.
* `run_reads_lines`: the loop over a stream to its end.
* `run_written`: the loop over lines that were written, each ended by CR LF, hands over each of them
  as it is read back.
-/

namespace BoardConsole.Foreground
open LineBuffer Input

/-- The bytes of lines, each with its end. -/
def written (lines : List String) : List UInt8 :=
  lines.flatMap fun line => Text.Utf8.encode line ++ lineEnd

/-- The lines that are handed over where lines were written. -/
def handedOver (maxLen : Nat) (lines : List String) : List String :=
  (lines.map (readBack maxLen)).filter fun line => !Text.isBlankText line

/-- The texts that are handed over where some pieces are read: those that are not blank. -/
def texts (maxLen : Nat) (pieces : List (List UInt8)) : List String :=
  (pieces.map (pieceText maxLen)).filter fun line => !Text.isBlankText line

/-- The lines that are handed over where some bytes are read. -/
def linesOf (maxLen : Nat) (bytes : List UInt8) : List String := texts maxLen (pieces bytes)

/-- The state when some lines have been handed over. -/
def handOver {σ : Type} (dispatch : String → σ → σ) (lines : List String) (s : σ) : σ :=
  lines.foldl (fun s line => dispatch line s) s

section Lines
variable {maxLen : Nat}

theorem texts_append (front back : List (List UInt8)) :
    texts maxLen (front ++ back) = texts maxLen front ++ texts maxLen back := by
  simp [texts]

theorem linesOf_append (front back : List UInt8) :
    linesOf maxLen (front ++ newline :: back)
      = linesOf maxLen (front ++ [newline]) ++ linesOf maxLen back := by
  rw [linesOf, pieces_append, texts_append]
  rfl

theorem linesOf_ended_cons {line : List UInt8} (h : newline ∉ line) (lines : List (List UInt8)) :
    linesOf maxLen (ended (line :: lines))
      = texts maxLen [line ++ [newline]] ++ linesOf maxLen (ended lines) := by
  rw [ended_cons, linesOf_append, linesOf, pieces_line h]

theorem linesOf_ended_append (lines : List (List UInt8)) (rest : List UInt8) :
    linesOf maxLen (ended lines ++ rest)
      = linesOf maxLen (ended lines) ++ linesOf maxLen rest := by
  rcases List.eq_nil_or_concat' lines with rfl | ⟨init, line, rfl⟩
  · rfl
  · rw [ended_concat, List.append_assoc, List.singleton_append, linesOf_append]

end Lines

theorem handOver_append {σ : Type} {dispatch : String → σ → σ} (front back : List String) (s : σ) :
    handOver dispatch (front ++ back) s = handOver dispatch back (handOver dispatch front s) :=
  List.foldl_append

/-- Lines that run under a lock reach the interpreter behind it. -/
theorem value_handOver {ι : Type} [Interpreter ι] (lines : List String) (lock : ExecutionLock ι) :
    (handOver (fun line lock => lock.doCommand line) lines lock).value
      = handOver Interpreter.doCommand lines lock.value := by
  induction lines generalizing lock with
  | nil => rfl
  | cons line lines ih => exact ih _

section Loop
variable {σ : Type} {dispatch : String → σ → σ} {maxLen : Nat}

theorem runFrom_of_end {buffer : LineBuffer} {input : Input}
    (h : (buffer.fill input).more = .ok false) (n : UInt64) (s : σ) :
    runFrom dispatch buffer n input s = (⟨n, .endOfInput⟩, s) := by
  unfold runFrom
  split
  · rename_i hmore
    rw [h] at hmore
    cases hmore
  · rfl
  · rename_i hmore
    rw [h] at hmore
    cases hmore

theorem runFrom_of_fill {buffer filled : LineBuffer} {input rest : Input}
    (h : buffer.fill input = ⟨.ok true, filled, rest⟩) (n : UInt64) (s : σ) :
    runFrom dispatch buffer n input s
      = if Text.isBlankText filled.line then runFrom dispatch filled.reset n rest s
        else runFrom dispatch filled.reset (n + 1) rest (dispatch filled.line s) := by
  rw [runFrom]
  split
  · rename_i hmore
    rw [h] at hmore
    cases hmore
  · rename_i hmore
    rw [h] at hmore
    cases hmore
  · simp only [h]

theorem fill_nil (maxLen : Nat) : ((new maxLen).fill []).more = .ok false := by
  simp [fill, takeLine, isCut, limit, new]

/-- One piece is read, and handed over unless it is blank. -/
theorem runFrom_of_piece {input rest : Input} {piece : List UInt8}
    (h : (new maxLen).fill input = ⟨.ok true, (new maxLen).stored piece, rest⟩) (n : UInt64) (s : σ) :
    runFrom dispatch (new maxLen) n input s
      = runFrom dispatch (new maxLen) (n + .ofNat (texts maxLen [piece]).length) rest
          (handOver dispatch (texts maxLen [piece]) s) := by
  rw [runFrom_of_fill h, line_stored]
  cases hblank : Text.isBlankText (pieceText maxLen piece) with
  | true =>
      have hnone : texts maxLen [piece] = [] := by simp [texts, hblank]
      have hcount : n + .ofNat (texts maxLen [piece]).length = n := by
        rw [hnone]
        exact UInt64.add_zero n
      rw [if_pos rfl, hcount, hnone]
      rfl
  | false =>
      have hone : texts maxLen [piece] = [pieceText maxLen piece] := by simp [texts, hblank]
      rw [if_neg Bool.false_ne_true, hone]
      rfl

/-- **The loop over whole lines**, whatever stands behind them: it hands them over, and goes on with
what is left. -/
theorem runFrom_ended {lines : List (List UInt8)} (hlines : ∀ line ∈ lines, newline ∉ line)
    {front : Input} (hfront : Unbroken front) {part : List UInt8}
    (hbytes : front.bytes = ended lines ++ part) (tail : Input) (n : UInt64) (s : σ) :
    ∃ rest, Unbroken rest ∧ rest.bytes = part ∧
      runFrom dispatch (new maxLen) n (front ++ tail) s
        = runFrom dispatch (new maxLen) (n + .ofNat (linesOf maxLen (ended lines)).length) (rest ++ tail)
            (handOver dispatch (linesOf maxLen (ended lines)) s) := by
  induction lines generalizing front n s with
  | nil => exact ⟨front, hfront, hbytes, congrArg (runFrom _ _ · _ _) (UInt64.add_zero n).symm⟩
  | cons line lines ih =>
      rw [List.forall_mem_cons] at hlines
      rw [ended_cons, List.append_assoc, List.cons_append] at hbytes
      obtain ⟨rest, hrest, hmore, hfill⟩ :=
        fill_ended_line (new maxLen) hfront hbytes hlines.1 tail
      obtain ⟨rest', hrest', hpart, hrun⟩ := ih hlines.2 hrest hmore
        (n + .ofNat (texts maxLen [line ++ [newline]]).length)
        (handOver dispatch (texts maxLen [line ++ [newline]]) s)
      refine ⟨rest', hrest', hpart, ?_⟩
      rw [runFrom_of_piece hfill, hrun, linesOf_ended_cons hlines.1, List.length_append,
        handOver_append, UInt64.ofNat_add, UInt64.add_assoc]

/-- The loop over a rest without a newline, which ends the stream. -/
theorem runFrom_rest {input : Input} (hinput : Unbroken input) (h : newline ∉ input.bytes)
    (n : UInt64) (s : σ) :
    runFrom dispatch (new maxLen) n input s
      = (⟨n + .ofNat (linesOf maxLen input.bytes).length, .endOfInput⟩,
        handOver dispatch (linesOf maxLen input.bytes) s) := by
  have hfill := fill_last_line (new maxLen) hinput h
  by_cases hne : input.bytes = []
  · rw [hne] at hfill ⊢
    have hcount : n + .ofNat (linesOf maxLen []).length = n := UInt64.add_zero n
    rw [hcount]
    exact runFrom_of_end (by rw [hfill]; rfl) n s
  · have htrue : (!input.bytes.isEmpty) = true := by simpa using hne
    rw [htrue] at hfill
    rw [runFrom_of_piece hfill, runFrom_of_end (fill_nil maxLen), linesOf, pieces_rest h hne]

/-- The loop over a stream to its end. -/
theorem runFrom_lines {input : Input} (h : Unbroken input) (n : UInt64) (s : σ) :
    runFrom dispatch (new maxLen) n input s
      = (⟨n + .ofNat (linesOf maxLen input.bytes).length, .endOfInput⟩,
        handOver dispatch (linesOf maxLen input.bytes) s) := by
  obtain ⟨lines, part, hbytes, hlines, hpart⟩ := exists_ended input.bytes
  obtain ⟨rest, hrest, hmore, hrun⟩ :=
    @runFrom_ended _ dispatch maxLen _ hlines _ h _ hbytes [] n s
  rw [List.append_nil, List.append_nil, runFrom_rest hrest (hmore ▸ hpart), hmore] at hrun
  rw [hrun, hbytes, linesOf_ended_append, List.length_append, handOver_append, UInt64.ofNat_add,
    UInt64.add_assoc]

end Loop

/-- **The loop reads lines exactly**, however the stream is cut into chunks and wherever reads of it
are interrupted.  It hands over, in order and once each, the texts of the pieces of the bytes that are
not blank, and ends with the stream.  So a line arrives whole if no more than `maxLen` bytes of it
stand in front of its line end, and no line, however long, alters the lines behind it. -/
theorem run_reads_lines {input : Input} (h : Unbroken input) (maxLen : Nat) :
    (∀ {σ : Type} (dispatch : String → σ → σ) (s : σ), run dispatch maxLen input s
      = (⟨.ofNat (linesOf maxLen input.bytes).length, .endOfInput⟩,
        handOver dispatch (linesOf maxLen input.bytes) s)) ∧
    (∀ {ι : Type} [Interpreter ι] (lock : ExecutionLock ι),
      (runLocked maxLen input lock).1
        = ⟨.ofNat (linesOf maxLen input.bytes).length, .endOfInput⟩ ∧
      (runLocked maxLen input lock).2.value
        = handOver Interpreter.doCommand (linesOf maxLen input.bytes) lock.value) ∧
    (∀ piece ∈ pieces input.bytes, (piece.rdropWhile isLineEnd).length ≤ maxLen →
      pieceText maxLen piece = Text.Utf8.decode (piece.rdropWhile isLineEnd)) ∧
    ∀ front back, input.bytes = front ++ newline :: back →
      linesOf maxLen input.bytes = linesOf maxLen (front ++ [newline]) ++ linesOf maxLen back := by
  have hrun : ∀ {σ : Type} (dispatch : String → σ → σ) (s : σ), run dispatch maxLen input s
      = (⟨.ofNat (linesOf maxLen input.bytes).length, .endOfInput⟩,
        handOver dispatch (linesOf maxLen input.bytes) s) := by
    intro σ dispatch s
    rw [run, runFrom_lines h, UInt64.zero_add]
  refine ⟨hrun, fun lock => ?_, fun piece _ hlen => pieceText_of_le hlen, fun front back hbytes => ?_⟩
  · rw [runLocked, hrun]
    exact ⟨rfl, value_handOver _ lock⟩
  · rw [hbytes, linesOf_append]

/-- A line that is longer than the buffer, with a carriage return at the end of what the buffer stores,
in three chunks with interruptions between them; and a short line behind it. -/
def interrupted : Input :=
  [.chunk [97, 98], .failure .interrupted, .chunk [99, 13], .failure .interrupted,
    .chunk [100, 10, 108, 115]]

/-- The long line is cut, and the short one arrives whole. -/
theorem run_reads_lines_interrupted :
    Unbroken interrupted ∧
    run (fun line lines => lines ++ [line]) 2 interrupted []
      = (⟨2, .endOfInput⟩, ["ab", "ls"]) ∧
    [108, 115] ∈ pieces interrupted.bytes ∧ pieceText 2 [108, 115] = "ls" ∧
    linesOf 2 interrupted.bytes
      = linesOf 2 [97, 98, 99, 13, 100, 10] ++ linesOf 2 [108, 115] := by
  have h : Unbroken interrupted := by simp [Unbroken, interrupted]
  have hpiece : [108, 115] ∈ pieces interrupted.bytes := by decide
  have hlines : linesOf 2 interrupted.bytes = ["ab", "ls"] := by cbv
  obtain ⟨hrun, -, hwhole, hcut⟩ := run_reads_lines h 2
  refine ⟨h, ?_, hpiece, ?_, hcut [97, 98, 99, 13, 100] [108, 115] rfl⟩
  · rw [hrun, hlines]
    rfl
  · rw [hwhole _ hpiece (by decide)]
    cbv

/-! ### Lines that were written -/

theorem linesOf_ended {maxLen : Nat} {lines : List (List UInt8)}
    (h : ∀ line ∈ lines, newline ∉ line) :
    linesOf maxLen (ended lines) = texts maxLen (lines.map (· ++ [newline])) := by
  induction lines with
  | nil => rfl
  | cons line lines ih =>
      rw [List.forall_mem_cons] at h
      rw [linesOf_ended_cons h.1, ih h.2, ← texts_append]
      rfl

theorem linesOf_written {maxLen : Nat} {lines : List String}
    (h : ∀ line ∈ lines, '\n' ∉ line.toList) :
    linesOf maxLen (written lines) = handedOver maxLen lines := by
  have hended : written lines
      = ended (lines.map fun line => Text.Utf8.encode line ++ [13]) := by
    simp [written, ended, lineEnd, List.flatMap_map, newline]
  have hnewline : ∀ line ∈ lines.map fun line => Text.Utf8.encode line ++ [13],
      newline ∉ line := by
    rw [List.forall_mem_map]
    intro line hline hmem
    rcases List.mem_append.mp hmem with hmem | hmem
    · exact h line hline ((Text.Utf8.ofNat_mem_encode (c := '\n') (by decide) line).mp hmem)
    · exact absurd hmem (by decide)
  have htext : ∀ line, pieceText maxLen ((Text.Utf8.encode line ++ [13]) ++ [newline])
      = readBack maxLen line := by
    intro line
    rw [List.append_assoc]
    rfl
  rw [hended, linesOf_ended hnewline, texts, handedOver, List.map_map, List.map_map]
  simp only [Function.comp_def, htext]

/-- **Lines that were written are handed over in order**, as they are read back. -/
theorem run_written {σ : Type} {dispatch : String → σ → σ} {maxLen : Nat} {lines : List String}
    (h : ∀ line ∈ lines, '\n' ∉ line.toList) (s : σ) :
    run dispatch maxLen (.ofBytes (written lines)) s
      = (⟨.ofNat (handedOver maxLen lines).length, .endOfInput⟩,
        (handedOver maxLen lines).foldl (fun s line => dispatch line s) s) := by
  have hunbroken : Unbroken (.ofBytes (written lines)) := by simp [Unbroken, ofBytes]
  have hbytes : Input.bytes (.ofBytes (written lines)) = written lines := List.append_nil _
  rw [run, runFrom_lines hunbroken, hbytes, linesOf_written h, UInt64.zero_add]
  rfl

end BoardConsole.Foreground
