import BoardConsole.Proofs.Lines.Stream

/-!
# Lines — Pieces

The bytes of a stream as a whole: they are cut into `pieces` after every newline, and each piece has
a text (`pieceText`).

* `exists_ended`: any bytes are some lines, each with its newline, and a rest without one.
* `pieces_append`: what stands in front of a newline is of no account behind it.
* `pieceText_of_le`: a line within the limit is a text in full.
-/

namespace BoardConsole

namespace Input

/-- The pieces of some bytes: they are cut after every newline. -/
def pieces (bytes : List UInt8) : List (List UInt8) := bytes.splitBy fun b _ => b != newline

/-- The bytes of lines, each with its newline. -/
def ended (lines : List (List UInt8)) : List UInt8 := lines.flatMap (· ++ [newline])

theorem ended_cons (line : List UInt8) (lines : List (List UInt8)) :
    ended (line :: lines) = line ++ newline :: ended lines := by
  simp [ended]

theorem ended_concat (lines : List (List UInt8)) (line : List UInt8) :
    ended (lines ++ [line]) = (ended lines ++ line) ++ [newline] := by
  simp [ended]

/-- Any bytes are lines with their newlines, and a rest without a newline. -/
theorem exists_ended (bytes : List UInt8) :
    ∃ lines rest, bytes = ended lines ++ rest ∧ (∀ line ∈ lines, newline ∉ line) ∧
      newline ∉ rest := by
  induction bytes with
  | nil => exact ⟨[], [], rfl, by simp, by simp⟩
  | cons b bytes ih =>
      obtain ⟨lines, rest, rfl, hlines, hrest⟩ := ih
      by_cases hb : b = newline
      · refine ⟨[] :: lines, rest, by rw [hb, ended_cons]; rfl, ?_, hrest⟩
        exact List.forall_mem_cons.mpr ⟨by simp, hlines⟩
      · cases lines with
        | nil => exact ⟨[], b :: rest, rfl, by simp, by simp [Ne.symm hb, hrest]⟩
        | cons line lines =>
            rw [List.forall_mem_cons] at hlines
            refine ⟨(b :: line) :: lines, rest, by rw [ended_cons, ended_cons]; rfl, ?_, hrest⟩
            exact List.forall_mem_cons.mpr ⟨by simp [Ne.symm hb, hlines.1], hlines.2⟩

/-- **Nothing in front of a newline is of account behind it.** -/
theorem pieces_append (front back : List UInt8) :
    pieces (front ++ newline :: back) = pieces (front ++ [newline]) ++ pieces back := by
  rw [List.append_cons, pieces, List.splitBy_append]
  · rfl
  · simp

theorem isChain_of_notMem {line : List UInt8} (h : newline ∉ line) (b : UInt8) :
    (line ++ [b]).IsChain fun b _ => (b != newline) = true := by
  induction line with
  | nil => exact .singleton b
  | cons c line ih =>
      rw [List.mem_cons, not_or] at h
      rw [List.cons_append, List.isChain_cons]
      exact ⟨fun _ _ => by simpa using Ne.symm h.1, ih h.2⟩

theorem pieces_line {line : List UInt8} (h : newline ∉ line) :
    pieces (line ++ [newline]) = [line ++ [newline]] :=
  List.splitBy_of_isChain (by simp) (isChain_of_notMem h newline)

/-- Bytes without a newline are one piece. -/
theorem pieces_rest {rest : List UInt8} (h : newline ∉ rest) (hne : rest ≠ []) :
    pieces rest = [rest] := by
  obtain ⟨init, last, rfl⟩ := (List.eq_nil_or_concat' rest).resolve_left hne
  rw [List.mem_append, not_or] at h
  exact List.splitBy_of_isChain hne (isChain_of_notMem h.1 last)

end Input

namespace LineBuffer

/-- The text of a piece: of its first `maxLen + 2` bytes the line end is left out, and of what is left
everything behind the first `maxLen` bytes. -/
def pieceText (maxLen : Nat) (piece : List UInt8) : String :=
  Text.Utf8.decode (((piece.take (maxLen + 2)).rdropWhile isLineEnd).take maxLen)

theorem line_stored (maxLen : Nat) (piece : List UInt8) :
    ((new maxLen).stored piece).line = pieceText maxLen piece := rfl

/-- A piece with no more than `maxLen` bytes in front of its line end arrives whole. -/
theorem pieceText_of_le {maxLen : Nat} {piece : List UInt8}
    (h : (piece.rdropWhile isLineEnd).length ≤ maxLen) :
    pieceText maxLen piece = Text.Utf8.decode (piece.rdropWhile isLineEnd) := by
  have hidem : (piece.rdropWhile isLineEnd).rdropWhile isLineEnd = piece.rdropWhile isLineEnd :=
    List.rdropWhile_idempotent isLineEnd piece
  -- behind the line's content the buffer stores nothing but some of its line end
  have hend : ((piece.rtakeWhile isLineEnd).take
      (maxLen + 2 - (piece.rdropWhile isLineEnd).length)).rdropWhile isLineEnd = [] :=
    List.rdropWhile_eq_nil_iff.mpr fun b hb => List.mem_rtakeWhile_imp (List.mem_of_mem_take hb)
  have hcut : (piece.take (maxLen + 2)).rdropWhile isLineEnd = piece.rdropWhile isLineEnd := by
    conv_lhs => rw [← List.rdropWhile_append_rtakeWhile (p := isLineEnd) (l := piece)]
    rw [List.take_append, List.take_of_length_le (by omega), rdropWhile_append hidem, hend,
      List.append_nil]
  rw [pieceText, hcut, List.take_of_length_le h]

end LineBuffer

end BoardConsole
