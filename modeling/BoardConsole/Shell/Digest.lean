/-!
# Shell — Digests

The sums and digests that are printed for the bytes of files.
-/

namespace BoardConsole.Shell.Digest

/-!
## Words and blocks of digests

A digest goes through its bytes in blocks of words. Here are the block a text is filled up to, the
words of a block in both orders of bytes, and the roots of primes from which constants are taken.
-/

/-! ### Blocks -/

/-- The bytes of a number, the greatest first. -/
def bigEndian (count n : Nat) : List UInt8 :=
  (List.range count).map fun k => UInt8.ofNat (n / Nat.pow 256 (count - 1 - k))

/-- The bytes of a number, the least first. -/
def littleEndian (count n : Nat) : List UInt8 := (bigEndian count n).reverse

/-- Bytes with a mark behind them, filled up with zeros so that a length of some bytes ends a block. -/
def filled (block lengthBytes : Nat) (length : List UInt8) (bytes : ByteArray) : ByteArray :=
  let used := bytes.size + 1 + lengthBytes
  let zeros := (block - used % block) % block
  ⟨bytes.data.push 0x80 ++ (List.replicate zeros 0).toArray ++ length.toArray⟩

/-- The number in some bytes from a place on, the greatest first. -/
def wordAt (bytes : ByteArray) (start count : Nat) : Nat :=
  (List.range count).foldl (fun n k => n * 256 + (bytes.data.getD (start + k) 0).toNat) 0

/-- The number in some bytes from a place on, the least first. -/
def wordAtReversed (bytes : ByteArray) (start count : Nat) : Nat :=
  (List.range count).foldr (fun k n => n * 256 + (bytes.data.getD (start + k) 0).toNat) 0

/-- Goes through blocks. -/
def overBlocks {σ : Type} (block : Nat) (step : σ → Nat → σ) (bytes : ByteArray) (start : σ) : σ :=
  (List.range (bytes.size / block)).foldl (fun s k => step s (k * block)) start

/-! ### Rotations -/

def rotateLeft (x : UInt32) (n : UInt32) : UInt32 := (x <<< n) ||| (x >>> (32 - n))

def rotateRight (x : UInt32) (n : UInt32) : UInt32 := (x >>> n) ||| (x <<< (32 - n))

def rotateRight64 (x : UInt64) (n : UInt64) : UInt64 := (x >>> n) ||| (x <<< (64 - n))

/-! ### Roots of primes -/

/-- The greatest number below a bound with a property that holds up to it, by halving. -/
def greatestWith (holds : Nat → Bool) : (bits : Nat) → (found : Nat) → Nat
  | 0, found => found
  | bits + 1, found =>
    let next := found + Nat.pow 2 bits
    greatestWith holds bits (if holds next then next else found)

/-- The integral part of a square root. -/
def squareRoot (n : Nat) : Nat := greatestWith (fun r => r * r ≤ n) 140 0

/-- The integral part of a cube root. -/
def cubeRoot (n : Nat) : Nat := greatestWith (fun r => r * r * r ≤ n) 80 0

/-- The first primes, as they are found up to a bound. -/
def primesBelow (n : Nat) : List Nat :=
  ((List.range n).drop 2).filter fun p => ((List.range p).drop 2).all fun d => p % d != 0

/-- The first eighty primes. -/
def primes : List Nat := primesBelow 410

/-- The first bits behind the point of the square root of a number. -/
def squareRootBits (bits n : Nat) : Nat := squareRoot (n * Nat.pow 2 (2 * bits)) % Nat.pow 2 bits

/-- The first bits behind the point of the cube root of a number. -/
def cubeRootBits (bits n : Nat) : Nat := cubeRoot (n * Nat.pow 2 (3 * bits)) % Nat.pow 2 bits

/-! ### What is shown -/

/-- Bytes in hexadecimal digits. -/
def hexOf (bytes : List UInt8) : String :=
  String.ofList (bytes.flatMap fun b =>
    [Nat.digitChar (b.toNat / 16), Nat.digitChar (b.toNat % 16)])

/-!
## Short sums

Sums of two and four bytes: the one that is turned at each byte, the one of all bytes, and the
remainder by a polynomial.
-/

/-- The sum that is turned to the right by a bit before each byte is added. -/
def turnedSum (bytes : ByteArray) : Nat :=
  (bytes.data.foldl
    (fun (s : UInt16) b => ((s >>> 1) ||| (s <<< 15)) + b.toUInt16) 0).toNat

/-- The sum of all bytes, its carries added to it. -/
def plainSum (bytes : ByteArray) : Nat :=
  let s := bytes.data.foldl (fun n b => n + b.toNat) 0 % Nat.pow 2 32
  let r := s % Nat.pow 2 16 + s / Nat.pow 2 16
  r % Nat.pow 2 16 + r / Nat.pow 2 16

/-- A remainder with one more bit. -/
def remainderStep (r : UInt32) : UInt32 :=
  if r &&& 0x80000000 != 0 then (r <<< 1) ^^^ 0x04c11db7 else r <<< 1

/-- The remainders of single bytes. -/
def remainders : Array UInt32 :=
  Array.ofFn fun k : Fin 256 =>
    (List.range 8).foldl (fun r _ => remainderStep r) (UInt32.ofNat (k * Nat.pow 2 24))

/-- A remainder with one more byte. -/
def addByte (r : UInt32) (b : UInt8) : UInt32 :=
  (r <<< 8) ^^^ remainders.getD ((r >>> 24) ^^^ b.toUInt32).toNat 0

/-- The bytes of a length, the least first, without zeros at the end. -/
def lengthBytes : (fuel : Nat) → Nat → List UInt8
  | 0, _ => []
  | fuel + 1, n => if n = 0 then [] else UInt8.ofNat n :: lengthBytes fuel (n / 256)

/-- The remainder of bytes and of their length, complemented. -/
def remainder (bytes : ByteArray) : Nat :=
  let r := bytes.data.foldl addByte 0
  (~~~ ((lengthBytes 16 bytes.size).foldl addByte r)).toNat

/-!
## Digests of five words at most

MD5, of four words, and SHA-1, of five. Both fill a text up to blocks of 64 bytes and mix each block
into their words.
-/

/-! ### MD5 -/

/-- The constants of the steps: the first bits behind the point of sines. -/
def sineBits : Array UInt32 :=
  #[0xd76aa478, 0xe8c7b756, 0x242070db, 0xc1bdceee, 0xf57c0faf, 0x4787c62a,
     0xa8304613, 0xfd469501, 0x698098d8, 0x8b44f7af, 0xffff5bb1, 0x895cd7be,
     0x6b901122, 0xfd987193, 0xa679438e, 0x49b40821, 0xf61e2562, 0xc040b340,
     0x265e5a51, 0xe9b6c7aa, 0xd62f105d, 0x02441453, 0xd8a1e681, 0xe7d3fbc8,
     0x21e1cde6, 0xc33707d6, 0xf4d50d87, 0x455a14ed, 0xa9e3e905, 0xfcefa3f8,
     0x676f02d9, 0x8d2a4c8a, 0xfffa3942, 0x8771f681, 0x6d9d6122, 0xfde5380c,
     0xa4beea44, 0x4bdecfa9, 0xf6bb4b60, 0xbebfbc70, 0x289b7ec6, 0xeaa127fa,
     0xd4ef3085, 0x04881d05, 0xd9d4d039, 0xe6db99e5, 0x1fa27cf8, 0xc4ac5665,
     0xf4292244, 0x432aff97, 0xab9423a7, 0xfc93a039, 0x655b59c3, 0x8f0ccc92,
     0xffeff47d, 0x85845dd1, 0x6fa87e4f, 0xfe2ce6e0, 0xa3014314, 0x4e0811a1,
     0xf7537e82, 0xbd3af235, 0x2ad7d2bb, 0xeb86d391]

/-- The four words. -/
structure Four where
  a : UInt32
  b : UInt32
  c : UInt32
  d : UInt32

/-- Adds words to words. -/
def Four.add (s t : Four) : Four := ⟨s.a + t.a, s.b + t.b, s.c + t.c, s.d + t.d⟩

/-- The rotations of the steps of a round. -/
def md5Turns : Array (Array UInt32) :=
  #[#[7, 12, 17, 22], #[5, 9, 14, 20], #[4, 11, 16, 23], #[6, 10, 15, 21]]

/-- A step, by its number. -/
def md5Step (words : Array UInt32) (s : Four) (i : Nat) : Four :=
  let (mixed, place) :=
    if i < 16 then ((s.b &&& s.c) ||| (~~~s.b &&& s.d), i)
    else if i < 32 then ((s.d &&& s.b) ||| (~~~s.d &&& s.c), (5 * i + 1) % 16)
    else if i < 48 then (s.b ^^^ s.c ^^^ s.d, (3 * i + 5) % 16)
    else (s.c ^^^ (s.b ||| ~~~s.d), 7 * i % 16)
  let turned := rotateLeft (s.a + mixed + sineBits.getD i 0 + words.getD place 0)
    ((md5Turns.getD (i / 16) #[]).getD (i % 4) 0)
  ⟨s.d, s.b + turned, s.b, s.c⟩

/-- The MD5 digest. -/
def md5 (bytes : ByteArray) : List UInt8 :=
  let text := filled 64 8 (littleEndian 8 (8 * bytes.size)) bytes
  let step (s : Four) (start : Nat) : Four :=
    let words := Array.ofFn fun k : Fin 16 => UInt32.ofNat (wordAtReversed text (start + 4 * k) 4)
    s.add ((List.range 64).foldl (md5Step words) s)
  let s := overBlocks 64 step text ⟨0x67452301, 0xefcdab89, 0x98badcfe, 0x10325476⟩
  [s.a, s.b, s.c, s.d].flatMap fun w => littleEndian 4 w.toNat

/-! ### SHA-1 -/

/-- The words of a block and those that follow from them. -/
def sha1Schedule (words : Array UInt32) : Array UInt32 :=
  (List.range 64).foldl
    (fun ws k =>
      let at_ (back : Nat) : UInt32 := ws.getD (16 + k - back) 0
      ws.push (rotateLeft (at_ 3 ^^^ at_ 8 ^^^ at_ 14 ^^^ at_ 16) 1)) words

/-- A step, by its number. -/
def sha1Step (words : Array UInt32) : Four × UInt32 → Nat → Four × UInt32
  | (⟨a, b, c, d⟩, e), i =>
    let (mixed, constant) : UInt32 × UInt32 :=
      if i < 20 then ((b &&& c) ||| (~~~b &&& d), 0x5a827999)
      else if i < 40 then (b ^^^ c ^^^ d, 0x6ed9eba1)
      else if i < 60 then ((b &&& c) ||| (b &&& d) ||| (c &&& d), 0x8f1bbcdc)
      else (b ^^^ c ^^^ d, 0xca62c1d6)
    (⟨rotateLeft a 5 + mixed + e + constant + words.getD i 0, a, rotateLeft b 30, c⟩, d)

/-- The SHA-1 digest. -/
def sha1 (bytes : ByteArray) : List UInt8 :=
  let text := filled 64 8 (bigEndian 8 (8 * bytes.size)) bytes
  let step (s : Four × UInt32) (start : Nat) : Four × UInt32 :=
    let words := Array.ofFn fun k : Fin 16 => UInt32.ofNat (wordAt text (start + 4 * k) 4)
    let (t, e) := (List.range 80).foldl (sha1Step (sha1Schedule words)) s
    (s.1.add t, s.2 + e)
  let (s, e) := overBlocks 64 step text (⟨0x67452301, 0xefcdab89, 0x98badcfe, 0x10325476⟩, 0xc3d2e1f0)
  [s.a, s.b, s.c, s.d, e].flatMap fun w => bigEndian 4 w.toNat

/-!
## Digests of eight words

The SHA-2 family in words of 32 and of 64 bits, SM3, and BLAKE2b. The constants of SHA-2 are the
first bits behind the points of roots of primes.
-/

/-- Eight words. -/
structure Eight (α : Type) where
  a : α
  b : α
  c : α
  d : α
  e : α
  f : α
  g : α
  h : α

/-- The words as a list. -/
def Eight.toList {α : Type} (s : Eight α) : List α := [s.a, s.b, s.c, s.d, s.e, s.f, s.g, s.h]

/-- Puts words together. -/
def Eight.zip {α : Type} (op : α → α → α) (s t : Eight α) : Eight α :=
  ⟨op s.a t.a, op s.b t.b, op s.c t.c, op s.d t.d, op s.e t.e, op s.f t.f, op s.g t.g, op s.h t.h⟩

/-- Eight words by their numbers. -/
def Eight.ofFn {α : Type} (f : Nat → α) : Eight α := ⟨f 0, f 1, f 2, f 3, f 4, f 5, f 6, f 7⟩

/-! ### SHA-2 in words of 32 bits -/

/-- The constants of the steps. -/
def sha256Constants : Array UInt32 :=
  ((primes.take 64).map fun p => UInt32.ofNat (cubeRootBits 32 p)).toArray

/-- The words of a block and those that follow from them. -/
def sha256Schedule (words : Array UInt32) : Array UInt32 :=
  (List.range 48).foldl
    (fun ws k =>
      let back (n : Nat) : UInt32 := ws.getD (16 + k - n) 0
      let x := back 15
      let y := back 2
      let s0 := rotateRight x 7 ^^^ rotateRight x 18 ^^^ (x >>> 3)
      let s1 := rotateRight y 17 ^^^ rotateRight y 19 ^^^ (y >>> 10)
      ws.push (back 16 + s0 + back 7 + s1)) words

/-- A step, by its number. -/
def sha256Step (constants words : Array UInt32) (s : Eight UInt32) (i : Nat) : Eight UInt32 :=
  let s1 := rotateRight s.e 6 ^^^ rotateRight s.e 11 ^^^ rotateRight s.e 25
  let choice := (s.e &&& s.f) ^^^ (~~~s.e &&& s.g)
  let t1 := s.h + s1 + choice + constants.getD i 0 + words.getD i 0
  let s0 := rotateRight s.a 2 ^^^ rotateRight s.a 13 ^^^ rotateRight s.a 22
  let majority := (s.a &&& s.b) ^^^ (s.a &&& s.c) ^^^ (s.b &&& s.c)
  ⟨t1 + s0 + majority, s.a, s.b, s.c, s.d + t1, s.e, s.f, s.g⟩

/-- The words that remain of bytes. -/
def sha256Words (start : Eight UInt32) (bytes : ByteArray) : Eight UInt32 :=
  let text := filled 64 8 (bigEndian 8 (8 * bytes.size)) bytes
  let constants := sha256Constants
  let step (s : Eight UInt32) (start : Nat) : Eight UInt32 :=
    let words := Array.ofFn fun k : Fin 16 => UInt32.ofNat (wordAt text (start + 4 * k) 4)
    s.zip (· + ·) ((List.range 64).foldl (sha256Step constants (sha256Schedule words)) s)
  overBlocks 64 step text start

/-- The SHA-256 digest. -/
def sha256 (bytes : ByteArray) : List UInt8 :=
  let start := Eight.ofFn fun k => UInt32.ofNat (squareRootBits 32 (primes.getD k 0))
  (sha256Words start bytes).toList.flatMap fun w => bigEndian 4 w.toNat

/-- The SHA-224 digest. -/
def sha224 (bytes : ByteArray) : List UInt8 :=
  let start := Eight.ofFn fun k => UInt32.ofNat (squareRootBits 64 (primes.getD (k + 8) 0))
  ((sha256Words start bytes).toList.flatMap fun w => bigEndian 4 w.toNat).take 28

/-! ### SHA-2 in words of 64 bits -/

/-- The constants of the steps. -/
def sha512Constants : Array UInt64 :=
  ((primes.take 80).map fun p => UInt64.ofNat (cubeRootBits 64 p)).toArray

/-- The words of a block and those that follow from them. -/
def sha512Schedule (words : Array UInt64) : Array UInt64 :=
  (List.range 64).foldl
    (fun ws k =>
      let back (n : Nat) : UInt64 := ws.getD (16 + k - n) 0
      let x := back 15
      let y := back 2
      let s0 := rotateRight64 x 1 ^^^ rotateRight64 x 8 ^^^ (x >>> 7)
      let s1 := rotateRight64 y 19 ^^^ rotateRight64 y 61 ^^^ (y >>> 6)
      ws.push (back 16 + s0 + back 7 + s1)) words

/-- A step, by its number. -/
def sha512Step (constants words : Array UInt64) (s : Eight UInt64) (i : Nat) : Eight UInt64 :=
  let s1 := rotateRight64 s.e 14 ^^^ rotateRight64 s.e 18 ^^^ rotateRight64 s.e 41
  let choice := (s.e &&& s.f) ^^^ (~~~s.e &&& s.g)
  let t1 := s.h + s1 + choice + constants.getD i 0 + words.getD i 0
  let s0 := rotateRight64 s.a 28 ^^^ rotateRight64 s.a 34 ^^^ rotateRight64 s.a 39
  let majority := (s.a &&& s.b) ^^^ (s.a &&& s.c) ^^^ (s.b &&& s.c)
  ⟨t1 + s0 + majority, s.a, s.b, s.c, s.d + t1, s.e, s.f, s.g⟩

/-- The words that remain of bytes. The first words are roots of primes from some place on. -/
def sha512Words (place : Nat) (bytes : ByteArray) : List UInt8 :=
  let text := filled 128 16 (bigEndian 16 (8 * bytes.size)) bytes
  let constants := sha512Constants
  let step (s : Eight UInt64) (start : Nat) : Eight UInt64 :=
    let words := Array.ofFn fun k : Fin 16 => UInt64.ofNat (wordAt text (start + 8 * k) 8)
    s.zip (· + ·) ((List.range 80).foldl (sha512Step constants (sha512Schedule words)) s)
  let start := Eight.ofFn fun k => UInt64.ofNat (squareRootBits 64 (primes.getD (k + place) 0))
  (overBlocks 128 step text start).toList.flatMap fun w => bigEndian 8 w.toNat

/-- The SHA-512 digest. -/
def sha512 (bytes : ByteArray) : List UInt8 := sha512Words 0 bytes

/-- The SHA-384 digest. -/
def sha384 (bytes : ByteArray) : List UInt8 := (sha512Words 8 bytes).take 48

/-! ### SM3 -/

/-- The words that SM3 begins with. -/
def sm3Start : Eight UInt32 :=
  ⟨0x7380166f, 0x4914b2b9, 0x172442d7, 0xda8a0600, 0xa96f30bc, 0x163138aa, 0xe38dee4d, 0xb0fb0e4e⟩

/-- The words of a block and those that follow from them. -/
def sm3Schedule (words : Array UInt32) : Array UInt32 :=
  (List.range 52).foldl
    (fun ws k =>
      let back (n : Nat) : UInt32 := ws.getD (16 + k - n) 0
      let x := back 16 ^^^ back 9 ^^^ rotateLeft (back 3) 15
      let mixed := x ^^^ rotateLeft x 15 ^^^ rotateLeft x 23
      ws.push (mixed ^^^ rotateLeft (back 13) 7 ^^^ back 6)) words

/-- A step, by its number. -/
def sm3Step (words : Array UInt32) (s : Eight UInt32) (i : Nat) : Eight UInt32 :=
  let constant : UInt32 := if i < 16 then 0x79cc4519 else 0x7a879d8a
  let turn := UInt32.ofNat (i % 32)
  let turned := if turn = 0 then constant else rotateLeft constant turn
  let s1 := rotateLeft (rotateLeft s.a 12 + s.e + turned) 7
  let s2 := s1 ^^^ rotateLeft s.a 12
  let first := if i < 16 then s.a ^^^ s.b ^^^ s.c else (s.a &&& s.b) ||| (s.a &&& s.c) ||| (s.b &&& s.c)
  let second := if i < 16 then s.e ^^^ s.f ^^^ s.g else (s.e &&& s.f) ||| (~~~s.e &&& s.g)
  let t1 := first + s.d + s2 + (words.getD i 0 ^^^ words.getD (i + 4) 0)
  let t2 := second + s.h + s1 + words.getD i 0
  ⟨t1, s.a, rotateLeft s.b 9, s.c, t2 ^^^ rotateLeft t2 9 ^^^ rotateLeft t2 17, s.e,
    rotateLeft s.f 19, s.g⟩

/-- The SM3 digest. -/
def sm3 (bytes : ByteArray) : List UInt8 :=
  let text := filled 64 8 (bigEndian 8 (8 * bytes.size)) bytes
  let step (s : Eight UInt32) (start : Nat) : Eight UInt32 :=
    let words := Array.ofFn fun k : Fin 16 => UInt32.ofNat (wordAt text (start + 4 * k) 4)
    s.zip (· ^^^ ·) ((List.range 64).foldl (sm3Step (sm3Schedule words)) s)
  (overBlocks 64 step text sm3Start).toList.flatMap fun w => bigEndian 4 w.toNat

/-! ### BLAKE2b -/

/-- The orders in which the words of a block are mixed. -/
def blakeOrders : Array (Array Nat) :=
  #[#[0, 1, 2, 3, 4, 5, 6, 7, 8, 9, 10, 11, 12, 13, 14, 15],
    #[14, 10, 4, 8, 9, 15, 13, 6, 1, 12, 0, 2, 11, 7, 5, 3],
    #[11, 8, 12, 0, 5, 2, 15, 13, 10, 14, 3, 6, 7, 1, 9, 4],
    #[7, 9, 3, 1, 13, 12, 11, 14, 2, 6, 5, 10, 4, 0, 15, 8],
    #[9, 0, 5, 7, 2, 4, 10, 15, 14, 1, 11, 12, 6, 8, 3, 13],
    #[2, 12, 6, 10, 0, 11, 8, 3, 4, 13, 7, 5, 15, 14, 1, 9],
    #[12, 5, 1, 15, 14, 13, 4, 10, 0, 7, 6, 3, 9, 2, 8, 11],
    #[13, 11, 7, 14, 12, 1, 3, 9, 5, 0, 15, 4, 8, 6, 2, 10],
    #[6, 15, 14, 9, 11, 3, 0, 8, 12, 2, 13, 7, 1, 4, 10, 5],
    #[10, 2, 8, 4, 7, 6, 1, 5, 15, 11, 9, 14, 3, 12, 13, 0]]

/-- The places of the words that are mixed with each other. -/
def blakeColumns : List (Nat × Nat × Nat × Nat) :=
  [(0, 4, 8, 12), (1, 5, 9, 13), (2, 6, 10, 14), (3, 7, 11, 15),
   (0, 5, 10, 15), (1, 6, 11, 12), (2, 7, 8, 13), (3, 4, 9, 14)]

/-- Mixes four words with two of a block. -/
def blakeMix (v : Array UInt64) (places : Nat × Nat × Nat × Nat) (x y : UInt64) : Array UInt64 :=
  let (i, j, k, l) := places
  let (a, b, c, d) := (v.getD i 0, v.getD j 0, v.getD k 0, v.getD l 0)
  let a := a + b + x
  let d := rotateRight64 (d ^^^ a) 32
  let c := c + d
  let b := rotateRight64 (b ^^^ c) 24
  let a := a + b + y
  let d := rotateRight64 (d ^^^ a) 16
  let c := c + d
  let b := rotateRight64 (b ^^^ c) 63
  (((v.setIfInBounds i a).setIfInBounds j b).setIfInBounds k c).setIfInBounds l d

/-- The words that BLAKE2b begins with. -/
def blakeStart : Array UInt64 :=
  ((primes.take 8).map fun p => UInt64.ofNat (squareRootBits 64 p)).toArray

/-- Mixes a block into eight words; so many bytes have been taken with it, and it may be the last. -/
def blakeBlock (h words : Array UInt64) (taken : Nat) (last : Bool) : Array UInt64 :=
  let v := h ++ blakeStart
  let v := v.modify 12 (· ^^^ UInt64.ofNat taken)
  let v := if last then v.modify 14 (~~~ ·) else v
  let round (v : Array UInt64) (r : Nat) : Array UInt64 :=
    let order := blakeOrders.getD (r % 10) #[]
    (blakeColumns.zipIdx).foldl
      (fun v (places, n) =>
        let word (k : Nat) : UInt64 := words.getD (order.getD (2 * n + k) 0) 0
        blakeMix v places (word 0) (word 1)) v
  let v := (List.range 12).foldl round v
  Array.ofFn fun k : Fin 8 => h.getD k 0 ^^^ v.getD k 0 ^^^ v.getD (k + 8) 0

/-- The BLAKE2b digest of some bytes. -/
def blake2b (length : Nat) (bytes : ByteArray) : List UInt8 :=
  let h := blakeStart.modify 0 (· ^^^ UInt64.ofNat (0x01010000 + length))
  let blocks := max 1 ((bytes.size + 127) / 128)
  let words (start : Nat) : Array UInt64 :=
    Array.ofFn fun k : Fin 16 => UInt64.ofNat (wordAtReversed bytes (start + 8 * k) 8)
  let h := (List.range blocks).foldl
    (fun h n => blakeBlock h (words (128 * n)) (min bytes.size (128 * (n + 1))) (n + 1 = blocks)) h
  (h.toList.flatMap fun w => littleEndian 8 w.toNat).take length

end BoardConsole.Shell.Digest
