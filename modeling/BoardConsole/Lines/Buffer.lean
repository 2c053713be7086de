import BoardConsole.Lines.Input
import BoardConsole.Text.Utf8

/-!
# Lines — The line buffer

A buffer holds one line of at most `maxLen` bytes and its line end. Of a longer line the rest is
read and dropped, so that it never becomes a line of its own.
-/

namespace BoardConsole

/-- A buffer for one line. -/
structure LineBuffer where
  maxLen  : Nat
  bytes   : List UInt8
  /-- The bytes of the line that did not fit. -/
  dropped : Nat
deriving DecidableEq, Repr

namespace LineBuffer

/-- A buffer for lines of at most `maxLen` bytes. -/
def new (maxLen : Nat) : LineBuffer := ⟨maxLen, [], 0⟩

/-- Empties the buffer. -/
def reset (b : LineBuffer) : LineBuffer := new b.maxLen

/-- The most bytes that the buffer stores: a line and its CR LF. -/
def limit (b : LineBuffer) : Nat := b.maxLen + 2

/-- Whether the stored bytes are only a part of their line. -/
def isCut (b : LineBuffer) : Bool :=
  b.bytes.length == b.limit && b.bytes.getLast? != some Input.newline

/-- What filling a buffer comes to: whether there was a line, or the fault that broke it off. -/
structure Filled where
  more   : Except ReadFault Bool
  buffer : LineBuffer
  rest   : Input

/-- Reads the next line. -/
def fill (b : LineBuffer) (input : Input) : Filled :=
  let taken := Input.takeLine b.limit input
  let b := { b with bytes := taken.bytes, dropped := 0 }
  match taken.fault with
  | some fault => ⟨.error fault, b, taken.rest⟩
  | none =>
    if b.isCut then
      let skipped := Input.skipLine taken.rest
      match skipped.fault with
      | some fault => ⟨.error fault, b, skipped.rest⟩
      | none       => ⟨.ok true, { b with dropped := skipped.count }, skipped.rest⟩
    else ⟨.ok (!b.bytes.isEmpty), b, taken.rest⟩

/-- A byte of a line end. -/
def isLineEnd (b : UInt8) : Bool := b == 10 || b == 13

/-- The bytes without the line end. -/
def content (b : LineBuffer) : List UInt8 :=
  (b.bytes.reverse.dropWhile isLineEnd).reverse

/-- The text of the line, at most `maxLen` bytes of it. -/
def line (b : LineBuffer) : String :=
  Text.Utf8.decode (b.content.take b.maxLen)

/-- A line uses up some of the input. -/
theorem size_fill {b : LineBuffer} {input : Input} (h : (b.fill input).more = .ok true) :
    (b.fill input).rest.size < input.size := by
  have ht := Input.size_takeLine b.limit input
  have hs := Input.size_skipLine (Input.takeLine b.limit input).rest
  unfold fill at h ⊢
  dsimp only at h ⊢
  split at h
  · simp at h
  · split at h
    · rename_i hcut
      rw [if_pos hcut]
      have hlen : (Input.takeLine b.limit input).bytes.length = b.limit := by
        simp only [isCut, Bool.and_eq_true, beq_iff_eq] at hcut
        exact hcut.1
      have : b.limit = b.maxLen + 2 := rfl
      split <;> dsimp only <;> omega
    · rename_i hcut
      rw [if_neg hcut]
      simp only [Except.ok.injEq, Bool.not_eq_true', List.isEmpty_eq_false_iff] at h
      have := List.length_pos_iff.2 h
      dsimp only
      omega

end LineBuffer

end BoardConsole
