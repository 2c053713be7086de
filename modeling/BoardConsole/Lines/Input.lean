/-!
# Lines — Input

A byte stream as its reader gets it: chunks of bytes, and reads that fail. A read that was
interrupted is made again. `takeLine` reads up to and including a newline, `skipLine` passes over as
much; neither depends on how the stream is cut into chunks.
-/

namespace BoardConsole

/-- Why a read fails. -/
inductive ReadFault where
  | interrupted
  | brokenPipe
  | isADirectory
deriving DecidableEq, Repr

/-- The words for a fault. -/
def ReadFault.message : ReadFault → String
  | interrupted  => "read failed"
  | brokenPipe   => "read failed"
  | isADirectory => "Is a directory (os error 21)"

/-- What one read brings. -/
inductive Delivery where
  | chunk (bytes : List UInt8)
  | failure (fault : ReadFault)
deriving DecidableEq, Repr

/-- What is left of a stream. -/
abbrev Input := List Delivery

namespace Input

/-- The byte that ends a line. -/
def newline : UInt8 := 10

/-- A stream that delivers bytes in one chunk. -/
def ofBytes (bytes : List UInt8) : Input := [.chunk bytes]

/-- The bytes and reads left, as a measure of progress. -/
def size : Input → Nat
  | []                    => 0
  | .chunk bytes :: rest  => bytes.length + 1 + size rest
  | .failure _ :: rest    => 1 + size rest

/-- The bytes up to and including the first newline, and those after it. -/
def splitLine (bytes : List UInt8) : List UInt8 × List UInt8 :=
  let line := bytes.takeWhile (· != newline)
  match bytes.drop line.length with
  | []     => (line, [])
  | b :: r => (line ++ [b], r)

/-- The chunk first, unless it is empty. -/
def pushChunk (bytes : List UInt8) (rest : Input) : Input :=
  if bytes.isEmpty then rest else .chunk bytes :: rest

/-- What reading part of a line comes to: the bytes read, the fault that broke it off, and what is
left. -/
structure Taken where
  bytes : List UInt8
  fault : Option ReadFault
  rest  : Input

/-- Reads up to and including a newline, at most `limit` bytes, where `limit` is positive. -/
def takeLine (limit : Nat) : Input → Taken
  | [] => ⟨[], none, []⟩
  | .failure .interrupted :: rest => takeLine limit rest
  | .failure fault :: rest => ⟨[], some fault, rest⟩
  | .chunk bytes :: rest =>
    let (line, _) := splitLine (bytes.take limit)
    let left := bytes.drop line.length
    if line.length = limit ∨ line.getLast? = some newline then ⟨line, none, pushChunk left rest⟩
    else
      let more := takeLine (limit - line.length) rest
      { more with bytes := line ++ more.bytes }

/-- What passing over a line comes to: how many bytes, the fault that broke it off, and what is
left. -/
structure Skipped where
  count : Nat
  fault : Option ReadFault
  rest  : Input

/-- Passes over everything up to and including a newline. -/
def skipLine : Input → Skipped
  | [] => ⟨0, none, []⟩
  | .failure .interrupted :: rest => skipLine rest
  | .failure fault :: rest => ⟨0, some fault, rest⟩
  | .chunk bytes :: rest =>
    let (line, left) := splitLine bytes
    if line.getLast? = some newline then ⟨line.length, none, pushChunk left rest⟩
    else
      let more := skipLine rest
      { more with count := line.length + more.count }

theorem size_pushChunk (bytes : List UInt8) (rest : Input) :
    size (pushChunk bytes rest) ≤ bytes.length + 1 + size rest := by
  unfold pushChunk
  split <;> simp [size]

theorem length_splitLine (bytes : List UInt8) :
    (splitLine bytes).1.length + (splitLine bytes).2.length = bytes.length := by
  have h : (bytes.takeWhile (· != newline)).length ≤ bytes.length :=
    (List.takeWhile_sublist _).length_le
  have hd : (bytes.drop (bytes.takeWhile (· != newline)).length).length
      = bytes.length - (bytes.takeWhile (· != newline)).length := List.length_drop
  unfold splitLine
  dsimp only
  split
  · rename_i hn
    simp only [hn, List.length_nil] at hd ⊢
    omega
  · rename_i hn
    simp only [hn, List.length_cons, List.length_append, List.length_nil] at hd ⊢
    omega

/-- Reading uses up what it brings. -/
theorem size_takeLine (limit : Nat) (input : Input) :
    (takeLine limit input).bytes.length + size (takeLine limit input).rest ≤ size input := by
  induction input generalizing limit with
  | nil => simp [takeLine, size]
  | cons delivery rest ih =>
    match delivery with
    | .failure .interrupted =>
      have := ih limit
      simp only [takeLine, size]
      omega
    | .failure .brokenPipe => simp [takeLine, size]
    | .failure .isADirectory => simp [takeLine, size]
    | .chunk bytes =>
      have hs := length_splitLine (bytes.take limit)
      have ht : (bytes.take limit).length ≤ bytes.length := List.length_take_le' ..
      rw [takeLine]
      split
      rename_i line x hl
      have hline : line = (splitLine (bytes.take limit)).1 := by rw [hl]
      have hle : line.length ≤ bytes.length := by rw [hline]; omega
      dsimp only
      split
      · have hp := size_pushChunk (bytes.drop line.length) rest
        rw [List.length_drop] at hp
        simp only [size]
        omega
      · have := ih (limit - line.length)
        simp only [List.length_append, size]
        omega

/-- Passing over uses up what it passes over. -/
theorem size_skipLine (input : Input) :
    (skipLine input).count + size (skipLine input).rest ≤ size input := by
  induction input with
  | nil => simp [skipLine, size]
  | cons delivery rest ih =>
    match delivery with
    | .failure .interrupted => simp only [skipLine, size]; omega
    | .failure .brokenPipe => simp [skipLine, size]
    | .failure .isADirectory => simp [skipLine, size]
    | .chunk bytes =>
      have hs := length_splitLine bytes
      rw [skipLine]
      split
      rename_i line left hl
      simp only [hl] at hs
      split
      · have hp := size_pushChunk left rest
        simp only [size]
        omega
      · simp only [size]
        omega

end Input

end BoardConsole
