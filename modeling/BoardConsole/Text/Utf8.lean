/-!
# Text — UTF-8

`encode` gives the bytes of a text. `decode` reads any bytes: a well-formed character is read as
itself, and every longest beginning of one that does not continue into a character, as well as
every byte that begins none, is read as one U+FFFD.
-/

namespace BoardConsole.Text.Utf8

/-- What a byte that begins no character is read as. -/
def replacement : Char := Char.ofNat 0xFFFD

/-- The bytes of a text. -/
def encode (s : String) : List UInt8 :=
  s.toList.flatMap String.utf8EncodeChar

/-- The number of bytes of a text. -/
def size (s : String) : Nat :=
  (encode s).length

/-- The first and the last byte that may stand at one place of a character. -/
abbrev Range := UInt8 × UInt8

/-- Where no other rule holds, a continuation byte is any of `80` to `BF`. -/
def continuation : Range := (0x80, 0xBF)

/-- The leading bits that the first byte of a longer character holds, and the bytes that may
follow it. The narrower ranges rule out overlong forms, surrogates and values above `10FFFF`. -/
def followers? (b : UInt8) : Option (Nat × List Range) :=
  let n := b.toNat
  if 0xC2 ≤ n ∧ n ≤ 0xDF then some (n - 0xC0, [continuation])
  else if n = 0xE0 then some (0, [(0xA0, 0xBF), continuation])
  else if n = 0xED then some (0xD, [(0x80, 0x9F), continuation])
  else if 0xE1 ≤ n ∧ n ≤ 0xEF then some (n - 0xE0, [continuation, continuation])
  else if n = 0xF0 then some (0, [(0x90, 0xBF), continuation, continuation])
  else if 0xF1 ≤ n ∧ n ≤ 0xF3 then some (n - 0xF0, [continuation, continuation, continuation])
  else if n = 0xF4 then some (4, [(0x80, 0x8F), continuation, continuation])
  else none

/-- Reads the rest of a character, six bits from each byte; a byte out of its range stays unread. -/
def complete (code : Nat) : List Range → List UInt8 → Char × List UInt8
  | [],            rest      => (Char.ofNat code, rest)
  | _ :: _,        []        => (replacement, [])
  | range :: more, b :: rest =>
    if range.1 ≤ b ∧ b ≤ range.2 then complete (code * 64 + b.toNat % 64) more rest
    else (replacement, b :: rest)

/-- Reads one character, or one U+FFFD, from bytes that begin with `b`. -/
def first (b : UInt8) (rest : List UInt8) : Char × List UInt8 :=
  if b < 0x80 then (Char.ofNat b.toNat, rest)
  else
    match followers? b with
    | some (code, ranges) => complete code ranges rest
    | none                => (replacement, rest)

theorem length_complete (code : Nat) (ranges : List Range) (rest : List UInt8) :
    (complete code ranges rest).2.length ≤ rest.length := by
  induction ranges generalizing code rest with
  | nil => simp [complete]
  | cons range more ih =>
    cases rest with
    | nil => simp [complete]
    | cons b rest =>
      rw [complete]
      split
      · exact Nat.le_succ_of_le (ih _ rest)
      · simp

theorem length_first (b : UInt8) (rest : List UInt8) :
    (first b rest).2.length ≤ rest.length := by
  unfold first
  split
  · simp
  · split
    · exact length_complete _ _ rest
    · simp

/-- The characters that any bytes are read as. -/
def decodeChars : List UInt8 → List Char
  | []        => []
  | b :: rest => (first b rest).1 :: decodeChars (first b rest).2
termination_by bytes => bytes.length
decreasing_by exact Nat.lt_succ_of_le (length_first b rest)

/-- The text that any bytes are read as. -/
def decode (bytes : List UInt8) : String :=
  String.ofList (decodeChars bytes)

/-- The text of well-formed bytes; nothing where a byte belongs to no character. -/
def decode? (bytes : List UInt8) : Option String :=
  let text := decode bytes
  if encode text = bytes then some text else none

end BoardConsole.Text.Utf8
