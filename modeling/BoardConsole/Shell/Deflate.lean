import BoardConsole.Shell.Bytes

/-!
# Shell — Packed files

Bytes are packed as repetitions of earlier bytes, in codes of bits, block by block.
-/

namespace BoardConsole.Shell.Deflate

/-!
## Repetitions in bytes

A sequence of bytes as tokens: bytes that stand for themselves, and copies of what stood before. Earlier
places are found by a hash of three bytes; how many of them are tried depends on the effort that is
made.
-/

/-- A part of a sequence of bytes. -/
inductive Token where
  | literal (byte : UInt8)
  /-- Some bytes that stood some places before. -/
  | copy (length distance : Nat)
deriving DecidableEq, Repr

/-- The bytes that a token stands for. -/
def Token.length : Token → Nat
  | literal _  => 1
  | copy n _   => n

/-- The least and the greatest length of a copy. -/
def leastCopy : Nat := 3
def greatestCopy : Nat := 258

/-- How far a copy may reach back, and how far the shortest ones may. -/
def greatestDistance : Nat := 32768 - greatestCopy - leastCopy - 1
def greatestShortDistance : Nat := 4096

/-- How hard repetitions are searched for. -/
structure Effort where
  /-- The length from which on fewer places are tried for a better copy. -/
  good  : Nat
  /-- The length from which on no better copy is searched for; without `waits`, up to which the places
  inside a copy are found again. -/
  lazy  : Nat
  /-- The length that is long enough. -/
  nice  : Nat
  /-- How many places are tried. -/
  chain : Nat
  /-- Whether a copy waits for a longer one that begins at the next byte. -/
  waits : Bool

/-- The efforts that have numbers. -/
def Effort.ofLevel : Nat → Effort
  | 1 => ⟨4, 4, 8, 4, false⟩
  | 2 => ⟨4, 5, 16, 8, false⟩
  | 3 => ⟨4, 6, 32, 32, false⟩
  | 4 => ⟨4, 4, 16, 16, true⟩
  | 5 => ⟨8, 16, 32, 32, true⟩
  | 7 => ⟨8, 32, 128, 256, true⟩
  | 8 => ⟨32, 128, 258, 1024, true⟩
  | 9 => ⟨32, 258, 258, 4096, true⟩
  | _ => ⟨8, 16, 128, 128, true⟩

/-- Places by their hashes: the last with each hash, and for each place the one before it. Zero is no
place. -/
structure Chains where
  last   : Array Nat
  before : Array Nat

/-- The hash of the three bytes from a place on. -/
def hashAt (data : Array UInt8) (k : Nat) : Nat :=
  let byte (j : Nat) : Nat := (data.getD j 0).toNat
  ((byte k <<< 10) ^^^ (byte (k + 1) <<< 5) ^^^ byte (k + 2)) &&& 0x7fff

/-- The chains with one more place, and the place before it. -/
def Chains.insert (c : Chains) (data : Array UInt8) (k : Nat) : Chains × Nat :=
  let h := hashAt data k
  let head := c.last.getD h 0
  (⟨c.last.setIfInBounds h k, c.before.setIfInBounds k head⟩, head)

/-- The chains with more places. -/
def Chains.insertAll (c : Chains) (data : Array UInt8) (start count : Nat) : Chains :=
  (List.range count).foldl (fun c k => (c.insert data (start + k)).1) c

/-- How many bytes from two places on are equal. -/
def equalFrom (data : Array UInt8) (a b : Nat) : (fuel : Nat) → Nat
  | 0 => 0
  | fuel + 1 =>
    if data.getD a 0 = data.getD b 0 then equalFrom data (a + 1) (b + 1) fuel + 1 else 0

/-- The longest repetition among the places of a chain, if it is longer than some length: its length,
and its place. -/
def longest (data : Array UInt8) (before : Array Nat) (nice start : Nat) :
    (chain : Nat) → (place : Nat) → (best : Nat × Nat) → Nat × Nat
  | 0, _, best => best
  | chain + 1, place, best =>
    let length := equalFrom data start place greatestCopy
    let isBetter : Bool := best.1 < length
    let best := if isBetter then (length, place) else best
    if isBetter && nice ≤ length then best
    else
      let next := before.getD place 0
      if next ≤ start - greatestDistance then best else longest data before nice start chain next best

/-- A sequence that is being read. -/
structure Matching where
  start     : Nat
  /-- The length and the place of the repetition for the byte before. -/
  length    : Nat
  place     : Nat
  /-- Whether the byte before has no token yet. -/
  pending   : Bool
  chains    : Chains
  /-- The tokens, the last first. -/
  tokens    : List Token

/-- The repetition at a place, longer than some length. -/
def Matching.search (m : Matching) (e : Effort) (data : Array UInt8) (head least : Nat) : Nat × Nat :=
  let chain := if e.good ≤ least then e.chain / 4 else e.chain
  let (length, place) := longest data m.chains.before e.nice m.start chain head (least, m.place)
  (min length (data.size - m.start), place)

/-- Reads a sequence; a copy waits for a longer one. -/
def Matching.patient (e : Effort) (data : Array UInt8) : (fuel : Nat) → Matching → Matching
  | 0, m => m
  | fuel + 1, m =>
    if data.size ≤ m.start then
      if m.pending then { m with tokens := .literal (data.getD (m.start - 1) 0) :: m.tokens } else m
    else
      let (chains, head) := m.chains.insert data m.start
      let m := { m with chains }
      let (oldLength, oldPlace) := (m.length, m.place)
      let (length, place) :=
        if head != 0 && oldLength < e.lazy && m.start - head ≤ greatestDistance then
          let (length, place) := m.search e data head oldLength
          if length = leastCopy && greatestShortDistance < m.start - place then (length - 1, place)
          else (length, place)
        else (leastCopy - 1, oldPlace)
      if leastCopy ≤ oldLength && length ≤ oldLength then
        Matching.patient e data fuel
          { start   := m.start + oldLength - 1, length := leastCopy - 1, place, pending := false
            chains  := m.chains.insertAll data (m.start + 1) (oldLength - 2)
            tokens  := .copy oldLength (m.start - 1 - oldPlace) :: m.tokens }
      else
        let tokens := if m.pending then .literal (data.getD (m.start - 1) 0) :: m.tokens else m.tokens
        Matching.patient e data fuel
          { m with start := m.start + 1, length, place, pending := true, tokens }

/-- Reads a sequence; each copy is taken that is found. -/
def Matching.hasty (e : Effort) (data : Array UInt8) : (fuel : Nat) → Matching → Matching
  | 0, m => m
  | fuel + 1, m =>
    if data.size ≤ m.start then m
    else
      let (chains, head) := m.chains.insert data m.start
      let m := { m with chains }
      let (length, place) :=
        if head != 0 && m.start - head ≤ greatestDistance then m.search e data head (leastCopy - 1)
        else (0, m.place)
      if leastCopy ≤ length then
        let chains := if length ≤ e.lazy then m.chains.insertAll data (m.start + 1) (length - 1)
          else m.chains
        Matching.hasty e data fuel
          { m with
            start := m.start + length, place, chains
            tokens := .copy length (m.start - place) :: m.tokens }
      else
        Matching.hasty e data fuel
          { m with
            start := m.start + 1, place, tokens := .literal (data.getD m.start 0) :: m.tokens }

/-- A sequence of bytes as tokens. -/
def tokensOf (e : Effort) (data : Array UInt8) : List Token :=
  let m : Matching :=
    { start := 0, length := leastCopy - 1, place := 0, pending := false, tokens := []
      chains := ⟨Array.replicate 0x8000 0, Array.replicate data.size 0⟩ }
  let m := if e.waits then m.patient e data (data.size + 1) else m.hasty e data (data.size + 1)
  m.tokens.reverse

/-!
## Codes of bits

How long the codes of symbols are that occur more or less often: the two rarest are joined again and
again, until all are leaves of one tree. Codes that would be too long are made shorter at the cost of
others. The codes of one length follow each other in the order of their symbols.
-/

/-! ### Symbols for tokens -/

/-- The bits that follow the symbols for lengths, those for distances, and those for runs of lengths. -/
def lengthExtras : List Nat :=
  [0, 0, 0, 0, 0, 0, 0, 0, 1, 1, 1, 1, 2, 2, 2, 2, 3, 3, 3, 3, 4, 4, 4, 4, 5, 5, 5, 5, 0]

def distanceExtras : List Nat :=
  [0, 0, 0, 0, 1, 1, 2, 2, 3, 3, 4, 4, 5, 5, 6, 6, 7, 7, 8, 8, 9, 9, 10, 10, 11, 11, 12, 12, 13, 13]

/-- The first values of symbols with some bits behind them, from one on. -/
def firstValues (start : Nat) : List Nat → List Nat
  | []              => []
  | extra :: extras => start :: firstValues (start + Nat.pow 2 extra) extras

/-- The first lengths of the symbols for them; the greatest length has one of its own. -/
def lengthStarts : List Nat := (firstValues leastCopy lengthExtras).dropLast ++ [greatestCopy]

/-- The first distances of the symbols for them. -/
def distanceStarts : List Nat := firstValues 1 distanceExtras

/-- The last of some values that is not greater than one: how many there are before it, and it. -/
def lastUpTo (n : Nat) (starts : List Nat) : Nat × Nat :=
  let count := (starts.takeWhile (· ≤ n)).length - 1
  (count, starts.getD count 0)

/-- The symbol of a value, and what its extra bits say. -/
def symbolOf (starts extras : List Nat) (n : Nat) : Nat × Nat × Nat :=
  let (symbol, start) := lastUpTo n starts
  (symbol, extras.getD symbol 0, n - start)

/-- The symbol behind the last token of a block, and the first one for lengths. -/
def endSymbol : Nat := 256
def firstLengthSymbol : Nat := 257

/-! ### Lengths of codes -/

/-- Symbols and joined nodes, as a heap in which none is rarer than the one above it. -/
structure CodeHeap where
  /-- The nodes, from the second place on. -/
  heap  : Array Nat
  size  : Nat
  /-- How often each node occurs, and how deep it is. -/
  count : Array Nat
  depth : Array Nat

/-- Whether a node is rarer than another, or as rare and not deeper. -/
def CodeHeap.isRarer (h : CodeHeap) (a b : Nat) : Bool :=
  let (m, n) := (h.count.getD a 0, h.count.getD b 0)
  m < n || (m = n && h.depth.getD a 0 ≤ h.depth.getD b 0)

/-- The heap with a node put down from some place to where it belongs. -/
def CodeHeap.sink (h : CodeHeap) (node : Nat) : (fuel : Nat) → (place : Nat) → CodeHeap
  | 0, place => { h with heap := h.heap.setIfInBounds place node }
  | fuel + 1, place =>
    let child := 2 * place
    if h.size < child then { h with heap := h.heap.setIfInBounds place node }
    else
      let at_ (k : Nat) : Nat := h.heap.getD k 0
      let child := if child < h.size && h.isRarer (at_ (child + 1)) (at_ child) then child + 1 else child
      if h.isRarer node (at_ child) then { h with heap := h.heap.setIfInBounds place node }
      else CodeHeap.sink { h with heap := h.heap.setIfInBounds place (at_ child) } node fuel child

/-- The heap with the node at a place put down. -/
def CodeHeap.settle (h : CodeHeap) (place : Nat) : CodeHeap :=
  h.sink (h.heap.getD place 0) (h.size + 1) place

/-- Joins nodes until one is left. Answers the nodes, each behind those above it, and what each belongs
to. -/
def CodeHeap.join : (fuel : Nat) → (node : Nat) → CodeHeap → List Nat → List (Nat × Nat) →
    List Nat × List (Nat × Nat)
  | 0, _, _, order, above => (order, above)
  | fuel + 1, node, h, order, above =>
    let first := h.heap.getD 1 0
    if h.size < 2 then (first :: order, above)
    else
      let h := { h with heap := h.heap.setIfInBounds 1 (h.heap.getD h.size 0), size := h.size - 1 }
      let h := h.settle 1
      let second := h.heap.getD 1 0
      let h := { h with
        count := h.count.setIfInBounds node (h.count.getD first 0 + h.count.getD second 0)
        depth := h.depth.setIfInBounds node (max (h.depth.getD first 0) (h.depth.getD second 0) + 1)
        heap := h.heap.setIfInBounds 1 node }
      CodeHeap.join fuel (node + 1) (h.settle 1) (second :: first :: order)
        ((first, node) :: (second, node) :: above)

/-- How many codes have each length, when those that are too long are made shorter: a shorter one
becomes longer for each two of them. -/
def shorten (most : Nat) : (excess : Nat) → (counts : Array Nat) → Array Nat
  | 0, counts => counts
  | 1, counts => step counts
  | excess + 2, counts => shorten most excess (step counts)
where
  /-- Makes one leaf longer. -/
  step (counts : Array Nat) : Array Nat :=
    let shorter := ((List.range most).reverse.find? fun n => counts.getD n 0 != 0).getD 0
    let counts := counts.modify shorter (· - 1)
    (counts.modify (shorter + 1) (· + 2)).modify most (· - 1)

/-- Gives the leaves lengths anew, the rarest the longest. -/
def relabel : (lengths : List (Nat × Nat)) → (leaves : List Nat) → Array Nat → Array Nat
  | [], _, table => table
  | (bits, n) :: rest, leaves, table =>
    relabel rest (leaves.drop n)
      ((leaves.take n).foldl (fun table leaf => table.setIfInBounds leaf bits) table)

/-- The lengths of codes for symbols that occur so often, none longer than `most`. At least two symbols
have codes. -/
def codeLengths (most : Nat) (counts : Array Nat) : Array Nat :=
  let n := counts.size
  let used := (List.range n).filter fun k => counts.getD k 0 != 0
  let forced := match used with
    | []  => [0, 1]
    | [k] => if k < 2 then [k + 1] else [0]
    | _   => []
  let nodes := used ++ forced
  let counts := forced.foldl (fun counts k => counts.setIfInBounds k 1) counts
  let h : CodeHeap :=
    { heap := (0 :: nodes).toArray, size := nodes.length
      count := counts ++ Array.replicate n 0, depth := Array.replicate (2 * n) 0 }
  let h := ((List.range (nodes.length / 2)).reverse).foldl (fun h k => CodeHeap.settle h (k + 1)) h
  let (order, above) := h.join (nodes.length + 1) n [] []
  let parents := above.foldl (fun (table : Array Nat) (node, parent) => table.setIfInBounds node parent)
    (Array.replicate (2 * n) 0)
  let (table, excess) := (order.drop 1).foldl
    (fun ((table : Array Nat), excess) node =>
      let bits := table.getD (parents.getD node 0) 0 + 1
      if most < bits then (table.setIfInBounds node most, excess + 1)
      else (table.setIfInBounds node bits, excess))
    (Array.replicate (2 * n) 0, 0)
  let leaves := order.filter (· < n)
  let lengths := table.extract 0 n
  if excess = 0 then lengths
  else
    let spread := leaves.foldl (fun (spread : Array Nat) k => spread.modify (lengths.getD k 0) (· + 1))
      (Array.replicate (most + 1) 0)
    let spread := shorten most excess spread
    relabel ((List.range most).reverse.map fun k => (k + 1, spread.getD (k + 1) 0)) leaves.reverse lengths

/-! ### Codes -/

/-- The number with some bits in the opposite order. -/
def reversedBits : (bits : Nat) → (n : Nat) → Nat
  | 0, _ => 0
  | bits + 1, n => (n % 2) * Nat.pow 2 bits + reversedBits bits (n / 2)

/-- The codes for symbols with some lengths, the first bit lowest; each with its length. -/
def codesOf (lengths : Array Nat) : Array (Nat × Nat) :=
  let most := lengths.foldl max 0
  let firsts := (List.range most).foldl
    (fun (firsts : Array Nat) bits =>
      let shorter := if bits = 0 then 0 else (lengths.filter (· = bits)).size
      firsts.push ((firsts.getD bits 0 + shorter) * 2))
    #[0]
  let (codes, _) := lengths.foldl
    (fun ((codes : Array (Nat × Nat)), (next : Array Nat)) bits =>
      if bits = 0 then (codes.push (0, 0), next)
      else (codes.push (reversedBits bits (next.getD bits 0), bits), next.modify bits (· + 1)))
    (#[], firsts)
  codes

/-- The lengths that codes have where a block does not say. -/
def standingLengths : Array Nat :=
  Array.replicate 144 8 ++ Array.replicate 112 9 ++ Array.replicate 24 7 ++ Array.replicate 8 8

def standingDistances : Array Nat := Array.replicate 30 5

/-- The order in which the lengths of the codes for lengths are written. -/
def lengthOrder : List Nat := [16, 17, 18, 0, 8, 7, 9, 6, 10, 5, 11, 4, 12, 3, 13, 2, 14, 1, 15]

/-!
## Packed bytes

Tokens are written in blocks. Each block takes the shortest of three forms: its bytes as they are, the
codes that always stand, or codes of its own, whose lengths are written in front of it.
-/

/-! ### Bits -/

/-- Bytes that are being written, and bits for the next of them, the first lowest. -/
structure BitWriter where
  bytes : Array UInt8
  held  : Nat
  count : Nat

/-- The bytes with some bits behind them. -/
def BitWriter.put (w : BitWriter) (n bits : Nat) : BitWriter :=
  let held := w.held + n * Nat.pow 2 w.count
  let count := w.count + bits
  let whole := count / 8
  { bytes := (List.range whole).foldl
      (fun bytes k => bytes.push (UInt8.ofNat (held / Nat.pow 256 k % 256))) w.bytes
    held := held / Nat.pow 256 whole, count := count % 8 }

/-- The bytes with the last of them filled up. -/
def BitWriter.align (w : BitWriter) : BitWriter := if w.count = 0 then w else w.put 0 (8 - w.count)

/-- The bytes with a code behind them. -/
def BitWriter.putCode (w : BitWriter) (codes : Array (Nat × Nat)) (symbol : Nat) : BitWriter :=
  let (code, bits) := codes.getD symbol (0, 0)
  w.put code bits

/-! ### Blocks -/

/-- How often symbols occur. -/
structure SymbolCounts where
  literals  : Array Nat
  distances : Array Nat

/-- The counts with one more token. -/
def SymbolCounts.add (s : SymbolCounts) : Token → SymbolCounts
  | .literal b => { s with literals := s.literals.modify b.toNat (· + 1) }
  | .copy length distance =>
    let (symbol, _) := symbolOf lengthStarts lengthExtras length
    let (far, _) := symbolOf distanceStarts distanceExtras distance
    { literals := s.literals.modify (firstLengthSymbol + symbol) (· + 1)
      distances := s.distances.modify far (· + 1) }

/-- No symbols but the one for the end. -/
def SymbolCounts.start : SymbolCounts :=
  ⟨(Array.replicate 286 0).setIfInBounds endSymbol 1, Array.replicate 30 0⟩

/-- The bits that symbols take with codes of some lengths, and with what follows them. -/
def bitsFor (counts lengths : Array Nat) (extra : Nat → Nat) : Nat :=
  (List.range counts.size).foldl
    (fun n k => n + counts.getD k 0 * (lengths.getD k 0 + extra k)) 0

/-- The bits behind the symbols for literals and lengths, and for distances. -/
def literalExtra (k : Nat) : Nat :=
  if k < firstLengthSymbol then 0 else lengthExtras.getD (k - firstLengthSymbol) 0

def distanceExtra (k : Nat) : Nat := distanceExtras.getD k 0

/-- Lengths of codes as symbols, with the bits behind each and what these say: a length, or one of three
kinds of runs. -/
def runSymbols : (before : Option Nat) → List (Nat × Nat) → List (Nat × Nat × Nat)
  | _, [] => []
  | before, (length, count) :: rest => one before length count ++ runSymbols (some length) rest
where
  /-- A run that is not too long, behind some length. -/
  one (before : Option Nat) (length count : Nat) : List (Nat × Nat × Nat) :=
    if length = 0 then
      if count < 3 then List.replicate count (0, 0, 0)
      else if count ≤ 10 then [(17, 3, count - 3)] else [(18, 7, count - 11)]
    else
      let follows : Bool := before = some length
      if count < (if follows then 3 else 4) then List.replicate count (length, 0, 0)
      else if follows then [(16, 2, count - 3)]
      else [(length, 0, 0), (16, 2, count - 1 - 3)]

/-- Lengths in runs: each takes as many equal ones as its kind may have. -/
def cutRuns : (fuel : Nat) → (before : Option Nat) → List Nat → List (Nat × Nat)
  | 0, _, _ | _, _, [] => []
  | fuel + 1, before, n :: rest =>
    let most := if n = 0 then 138 else if before = some n then 6 else 7
    let count := ((n :: rest).takeWhile (· = n)).length
    let count := min count most
    (n, count) :: cutRuns fuel (some n) ((n :: rest).drop count)

/-- The lengths up to the last that is not zero, but at least some. -/
def usedLengths (least : Nat) (lengths : Array Nat) : List Nat :=
  let used := ((lengths.toList.reverse.dropWhile (· = 0)).length)
  lengths.toList.take (max least used)

/-- The codes of a block, and the bits in which they are written. -/
structure BlockCodes where
  literals  : Array Nat
  distances : Array Nat
  /-- The lengths of both as symbols, and the lengths of the codes for these. -/
  symbols   : List (Nat × Nat × Nat)
  runCodes  : Array Nat
  /-- How many of the latter are written. -/
  runCount  : Nat

/-- The codes for symbols that occur so often. -/
def BlockCodes.ofCounts (s : SymbolCounts) : BlockCodes :=
  let literals := codeLengths 15 s.literals
  let distances := codeLengths 15 s.distances
  let symbolsOf (lengths : List Nat) : List (Nat × Nat × Nat) :=
    runSymbols none (cutRuns (lengths.length + 1) none lengths)
  let symbols := symbolsOf (usedLengths 1 literals) ++ symbolsOf (usedLengths 1 distances)
  let counts := symbols.foldl (fun (counts : Array Nat) s => counts.modify s.1 (· + 1))
    (Array.replicate 19 0)
  let runCodes := codeLengths 7 counts
  let runCount := (lengthOrder.reverse.dropWhile fun k => runCodes.getD k 0 = 0).length
  ⟨literals, distances, symbols, runCodes, max 4 runCount⟩

/-- The bits that a block takes with codes of its own. -/
def BlockCodes.bits (c : BlockCodes) (s : SymbolCounts) : Nat :=
  let runs := c.symbols.foldl (fun n (symbol, extra, _) => n + c.runCodes.getD symbol 0 + extra) 0
  bitsFor s.literals c.literals literalExtra + bitsFor s.distances c.distances distanceExtra + runs +
    3 * c.runCount + 14

/-- Writes the codes of a block. -/
def BlockCodes.write (c : BlockCodes) (w : BitWriter) : BitWriter :=
  let literals := (usedLengths 1 c.literals).length
  let distances := (usedLengths 1 c.distances).length
  let w := ((w.put (literals - 257) 5).put (distances - 1) 5).put (c.runCount - 4) 4
  let w := (lengthOrder.take c.runCount).foldl (fun w k => BitWriter.put w (c.runCodes.getD k 0) 3) w
  let codes := codesOf c.runCodes
  c.symbols.foldl (fun w (symbol, bits, n) => (BitWriter.putCode w codes symbol).put n bits) w

/-- Writes tokens and the end of their block. -/
def writeTokens (literals distances : Array Nat) (tokens : List Token) (w : BitWriter) : BitWriter :=
  let codes := codesOf literals
  let farCodes := codesOf distances
  let w := tokens.foldl
    (fun w token =>
      match token with
      | .literal b => BitWriter.putCode w codes b.toNat
      | .copy length distance =>
        let (symbol, bits, n) := symbolOf lengthStarts lengthExtras length
        let (far, farBits, m) := symbolOf distanceStarts distanceExtras distance
        (((BitWriter.putCode w codes (firstLengthSymbol + symbol)).put n bits).putCode farCodes far).put
          m farBits) w
  w.putCode codes endSymbol

/-- Writes a block. -/
def writeBlock (isLast : Bool) (bytes : List UInt8) (tokens : List Token) (w : BitWriter) : BitWriter :=
  let s := tokens.foldl SymbolCounts.add .start
  let c := BlockCodes.ofCounts s
  let last := if isLast then 1 else 0
  let inBytes (bits : Nat) : Nat := (bits + 3 + 7) / 8
  let standing := inBytes (bitsFor s.literals standingLengths literalExtra +
    bitsFor s.distances standingDistances distanceExtra)
  let best := min (inBytes (c.bits s)) standing
  if bytes.length + 4 ≤ best then
    let n := bytes.length
    let w := (((w.put last 3).align).put n 16).put (65535 - n) 16
    bytes.foldl (fun w b => BitWriter.put w b.toNat 8) w
  else if standing = best then
    writeTokens standingLengths standingDistances tokens (w.put (2 + last) 3)
  else writeTokens c.literals c.distances tokens (c.write (w.put (4 + last) 3))

/-- How many tokens a block has at most, and after how many it is asked whether it should end. -/
def greatestBlock : Nat := 0x7fff
def blockStep : Nat := 0x1000

/-- A block that is being filled. -/
structure Filling where
  count     : Nat
  copies    : Nat
  bytes     : Nat
  /-- The bits behind distances. -/
  farBits   : Nat

/-- Whether a block ends behind a token: it is full, or it is much shorter than its bytes with few copies
in it. -/
def Filling.ends (f : Filling) (e : Effort) (token : Token) : Bool :=
  -- While a copy is written, only its first byte has been passed.
  let passed := f.bytes - token.length + (if e.waits then 1 else 0)
  let length := (f.count * 8 + f.farBits) / 8
  f.count = greatestBlock || f.copies = greatestBlock ||
    (f.count % blockStep = 0 && 8 < e.chain && f.copies < f.count / 2 && length < passed / 2)

/-- Tokens in blocks, each with the number of its bytes. -/
def blocksOf (e : Effort) : Filling → (block : List Token) → List Token → List (Nat × List Token)
  | f, block, [] => [(f.bytes, block.reverse)]
  | f, block, token :: rest =>
    let (copies, bits) := match token with
      | .literal _     => (0, 0)
      | .copy _ distance =>
        let (symbol, _) := lastUpTo distance distanceStarts
        (1, 5 + distanceExtras.getD symbol 0)
    let f : Filling := ⟨f.count + 1, f.copies + copies, f.bytes + token.length, f.farBits + bits⟩
    if f.ends e token then (f.bytes, (token :: block).reverse) :: blocksOf e ⟨0, 0, 0, 0⟩ [] rest
    else blocksOf e f (token :: block) rest

/-- Writes blocks, the last of which ends the sequence. -/
def writeBlocks : List UInt8 → List (Nat × List Token) → BitWriter → BitWriter
  | _, [], w => w
  | bytes, (n, tokens) :: rest, w =>
    writeBlocks (bytes.drop n) rest (writeBlock rest.isEmpty (bytes.take n) tokens w)

/-- A sequence of bytes, packed. -/
def pack (e : Effort) (bytes : List UInt8) : List UInt8 :=
  let blocks := blocksOf e ⟨0, 0, 0, 0⟩ [] (tokensOf e bytes.toArray)
  (writeBlocks bytes blocks ⟨#[], 0, 0⟩).align.bytes.toList

/-!
## Bytes from packed ones

Blocks are read bit by bit. A code is known as soon as the bits read so far are one of those of their
length.
-/

/-- Bytes that are being read: those that are left, and the bits of the first that are left. -/
structure BitReader where
  bytes : List UInt8
  held  : Nat
  count : Nat

/-- Why packed bytes cannot be read: they end too soon, or they make no sense. -/
inductive UnpackFault where
  | ended
  | senseless
deriving DecidableEq

/-- Steps that read. -/
abbrev Unpacker := StateT BitReader (Except UnpackFault)

/-- Reads one bit. -/
def nextBit : Unpacker Nat := do
  let r ← get
  if r.count = 0 then
    match r.bytes with
    | []        => throw .ended
    | b :: rest =>
      set (⟨rest, b.toNat / 2, 7⟩ : BitReader)
      return b.toNat % 2
  else
    set { r with held := r.held / 2, count := r.count - 1 }
    return r.held % 2

/-- Reads a number of some bits, the lowest first. -/
def nextBits : (bits : Nat) → Unpacker Nat
  | 0 => return 0
  | bits + 1 => do
    let low ← nextBit
    return low + 2 * (← nextBits bits)

/-- Codes for reading: for each length the first code, and the symbols in their order. -/
structure CodeTable where
  rows : List (Nat × Array Nat)

/-- The codes of symbols with some lengths. -/
def CodeTable.ofLengths (lengths : Array Nat) : CodeTable :=
  let most := lengths.foldl max 0
  let (rows, _) := (List.range most).foldl
    (fun (rows, first) bits =>
      let symbols := ((List.range lengths.size).filter fun k => lengths.getD k 0 = bits + 1).toArray
      ((first, symbols) :: rows, (first + symbols.size) * 2))
    ([], 0)
  ⟨rows.reverse⟩

/-- Reads a symbol, after some bits of its code. -/
def nextSymbolIn : (rows : List (Nat × Array Nat)) → (code : Nat) → Unpacker Nat
  | [], _ => throw .senseless
  | (first, symbols) :: rows, code => do
    let code := 2 * code + (← nextBit)
    match (if first ≤ code then symbols[code - first]? else none) with
    | some symbol => return symbol
    | none        => nextSymbolIn rows code

/-- Reads a symbol. -/
def CodeTable.next (t : CodeTable) : Unpacker Nat := nextSymbolIn t.rows 0

/-- Reads lengths of codes, which may be written in runs. -/
def nextLengths (t : CodeTable) (count : Nat) : (fuel : Nat) → Array Nat → Unpacker (Array Nat)
  | 0, lengths => return lengths
  | fuel + 1, lengths => do
    if count ≤ lengths.size then return lengths.extract 0 count
    match ← t.next with
    | 16 =>
      let n ← nextBits 2
      nextLengths t count fuel (lengths ++ Array.replicate (n + 3) (lengths.back?.getD 0))
    | 17 =>
      let n ← nextBits 3
      nextLengths t count fuel (lengths ++ Array.replicate (n + 3) 0)
    | 18 =>
      let n ← nextBits 7
      nextLengths t count fuel (lengths ++ Array.replicate (n + 11) 0)
    | bits => nextLengths t count fuel (lengths.push bits)

/-- Reads the codes of a block. -/
def nextCodes : Unpacker (CodeTable × CodeTable) := do
  let literals := (← nextBits 5) + 257
  let distances := (← nextBits 5) + 1
  let count := (← nextBits 4) + 4
  let mut lengths := Array.replicate 19 0
  for k in lengthOrder.take count do
    lengths := lengths.setIfInBounds k (← nextBits 3)
  let all ← nextLengths (.ofLengths lengths) (literals + distances) (literals + distances + 1) #[]
  return (.ofLengths (all.extract 0 literals), .ofLengths (all.extract literals (literals + distances)))

/-- Bytes with a copy of earlier ones behind them. -/
def copyBack (distance : Nat) : (length : Nat) → Array UInt8 → Array UInt8
  | 0, out => out
  | n + 1, out => copyBack distance n (out.push (out.getD (out.size - distance) 0))

/-- Reads tokens up to the end of their block. -/
def nextTokens (literals distances : CodeTable) : (fuel : Nat) → Array UInt8 → Unpacker (Array UInt8)
  | 0, _ => throw .senseless
  | fuel + 1, out => do
    let symbol ← literals.next
    if symbol < endSymbol then nextTokens literals distances fuel (out.push (UInt8.ofNat symbol))
    else if symbol = endSymbol then return out
    else
      let k := symbol - firstLengthSymbol
      let (some start, some bits) := (lengthStarts[k]?, lengthExtras[k]?) | throw .senseless
      let length := start + (← nextBits bits)
      let far ← distances.next
      let (some start, some bits) := (distanceStarts[far]?, distanceExtras[far]?) | throw .senseless
      let distance := start + (← nextBits bits)
      if out.size < distance then throw .senseless
      nextTokens literals distances fuel (copyBack distance length out)

/-- Reads bytes as they are. -/
def nextBytes : (count : Nat) → Array UInt8 → Unpacker (Array UInt8)
  | 0, out => return out
  | n + 1, out => do nextBytes n (out.push (UInt8.ofNat (← nextBits 8)))

/-- Reads blocks up to the last. -/
def nextBlocks : (fuel : Nat) → Array UInt8 → Unpacker (Array UInt8)
  | 0, _ => throw .senseless
  | fuel + 1, out => do
    let isLast := (← nextBit) = 1
    let left := 8 * (← get).bytes.length + 16
    let out ← match ← nextBits 2 with
      | 0 => do
        modify fun r => { r with held := 0, count := 0 }
        let n ← nextBits 16
        let _ ← nextBits 16
        nextBytes n out
      | 1 => nextTokens (.ofLengths standingLengths) (.ofLengths standingDistances) left out
      | 2 => do
        let (literals, distances) ← nextCodes
        nextTokens literals distances left out
      | _ => throw .senseless
    if isLast then return out else nextBlocks fuel out

/-- The bytes that packed ones stand for, and what follows these. -/
def unpack (bytes : List UInt8) : Except UnpackFault (List UInt8 × List UInt8) :=
  ((nextBlocks (bytes.length + 1) #[]).run ⟨bytes, 0, 0⟩).map fun (out, r) => (out.toList, r.bytes)

/-!
## Files of packed bytes

Packed bytes between a header, which may have a name and a time, and a sum and the length of what they
stand for.
-/

/-- A sum with one more bit taken out. -/
def checkStep (n : UInt32) : UInt32 := if n &&& 1 = 1 then (n >>> 1) ^^^ 0xedb88320 else n >>> 1

/-- A sum with one more byte. -/
def checkByte (n : UInt32) (b : UInt8) : UInt32 :=
  (List.range 8).foldl (fun n _ => checkStep n) (n ^^^ b.toUInt32)

/-- The sum by which errors in bytes are found. -/
def checkSum (bytes : List UInt8) : Nat :=
  ((bytes.foldl checkByte 0xffffffff) ^^^ 0xffffffff).toNat

/-- A number as four bytes, the lowest first. -/
def fourBytes (n : Nat) : List UInt8 := (List.range 4).map fun k => UInt8.ofNat (n / Nat.pow 256 k % 256)

/-- The number that bytes spell, the lowest first. -/
def ofLittle (bytes : List UInt8) : Nat := bytes.foldr (fun b n => b.toNat + 256 * n) 0

/-- What stands before packed bytes. -/
def gzipHeader (level : Nat) (name : Option (List UInt8)) (time : Nat) : List UInt8 :=
  let flags : UInt8 := if name.isSome then 8 else 0
  let effort : UInt8 := if level = 9 then 2 else if level = 1 then 4 else 0
  [0x1f, 0x8b, 8, flags] ++ fourBytes time ++ [effort, 3] ++ ((name.map (· ++ [0])).getD [])

/-- A file of packed bytes. -/
def gzip (level : Nat) (name : Option (List UInt8)) (time : Nat) (bytes : List UInt8) : List UInt8 :=
  gzipHeader level name time ++ pack (.ofLevel level) bytes ++ fourBytes (checkSum bytes) ++
    fourBytes (bytes.length % Nat.pow 2 32)

/-- A member of a file of packed bytes. -/
structure GzipMember where
  bytes  : List UInt8
  /-- The length of the header and of what stands behind the packed bytes. -/
  header : Nat
  name   : Option (List UInt8)
  time   : Nat
  sum    : Nat

/-- Why a member cannot be read. -/
inductive GzipFault where
  | foreign
  | method (number : Nat)
  | cut
  | broken
  /-- What stands behind the packed bytes differs: the sum, the length, or both. -/
  | wrong (sum length : Bool)
deriving DecidableEq

/-- What follows the first zero of bytes, and what stands before it. -/
def upToZero (bytes : List UInt8) : List UInt8 × List UInt8 :=
  let text := bytes.takeWhile (· != 0)
  (text, bytes.drop (text.length + 1))

/-- The first member of a file, and what follows it. -/
def gunzip (bytes : List UInt8) : Except GzipFault (GzipMember × List UInt8) := do
  if bytes.length < 2 then throw .cut
  if bytes.take 2 != [0x1f, 0x8b] then throw .foreign
  if let some number := bytes[2]? then
    if number != 8 then throw (.method number.toNat)
  if bytes.length < 10 then throw .cut
  let flags := (bytes.getD 3 0).toNat
  let time := ofLittle ((bytes.drop 4).take 4)
  let rest := bytes.drop 10
  let rest := if flags / 4 % 2 = 1 then rest.drop (2 + ofLittle (rest.take 2)) else rest
  let (name, rest) := if flags / 8 % 2 = 1 then
      let (name, rest) := upToZero rest
      (some name, rest)
    else (none, rest)
  let rest := if flags / 16 % 2 = 1 then (upToZero rest).2 else rest
  let rest := if flags / 2 % 2 = 1 then rest.drop 2 else rest
  match unpack rest with
  | .error .ended     => throw .cut
  | .error .senseless => throw .broken
  | .ok (out, after) =>
    if after.length < 8 then throw .cut
    let sum := ofLittle (after.take 4)
    let wrongSum := sum != checkSum out
    let wrongLength := ofLittle ((after.drop 4).take 4) != out.length % Nat.pow 2 32
    if wrongSum || wrongLength then throw (.wrong wrongSum wrongLength)
    return (⟨out, bytes.length - rest.length + 8, name, time, sum⟩, after.drop 8)

end BoardConsole.Shell.Deflate
