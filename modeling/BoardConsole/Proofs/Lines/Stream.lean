import BoardConsole.Proofs.Lines.Buffer

/-!
# Lines — Lines out of a stream

How a stream is cut into chunks, and where reads of it are interrupted, makes no difference to what
is read of it: only the bytes that it delivers do.

* `takeLine_whole`, `skipLine_ended`: a line is taken, or passed over, up to its newline, and what is
  left delivers the bytes behind it.
* `fill_ended_line`: a buffer reads a line with its newline and nothing of what follows, and keeps
  the first `maxLen + 2` bytes of it.
* `fill_last_line`: the same of the last line, which ends with the stream.

A stream is taken as a front that is read and a tail that is not, so that what holds of a line holds
of it wherever it stands, and whatever happens to the reads behind it.
-/

namespace BoardConsole

namespace Input

/-- The bytes that a stream delivers. -/
def bytes : Input → List UInt8
  | []                   => []
  | .chunk bytes :: rest => bytes ++ Input.bytes rest
  | .failure _ :: rest   => Input.bytes rest

/-- No read fails but for those that are interrupted. -/
def Unbroken (input : Input) : Prop :=
  ∀ fault, .failure fault ∈ input → fault = .interrupted

theorem Unbroken.of_cons {delivery : Delivery} {input : Input} (h : Unbroken (delivery :: input)) :
    (delivery = .failure .interrupted ∨ ∃ bytes, delivery = .chunk bytes) ∧ Unbroken input := by
  refine ⟨?_, fun fault hmem => h fault (List.mem_cons_of_mem _ hmem)⟩
  cases delivery with
  | chunk bytes => exact .inr ⟨bytes, rfl⟩
  | failure fault => exact .inl (by rw [h fault List.mem_cons_self])

theorem Unbroken.pushChunk {input : Input} (h : Unbroken input) (bytes : List UInt8) :
    Unbroken (pushChunk bytes input) := by
  unfold Input.pushChunk
  split
  · exact h
  · intro fault hmem
    exact h fault (by simpa using hmem)

theorem bytes_pushChunk (front : List UInt8) (input : Input) :
    (pushChunk front input).bytes = front ++ input.bytes := by
  unfold pushChunk
  split
  · rename_i hempty
    rw [List.isEmpty_iff.mp hempty, List.nil_append]
  · rfl

theorem pushChunk_append (bytes : List UInt8) (input tail : Input) :
    pushChunk bytes (input ++ tail) = pushChunk bytes input ++ tail := by
  unfold pushChunk
  split <;> rfl

/-- Of two ways of cutting a list, one cuts it in front of the other. -/
theorem exists_of_append_eq {a b c d : List UInt8} (h : a ++ b = c ++ d) :
    (∃ left, a = c ++ left ∧ d = left ++ b) ∨ ∃ back, back ≠ [] ∧ c = a ++ back ∧ b = back ++ d := by
  rcases List.append_eq_append_iff.mp h with ⟨back, rfl, rfl⟩ | ⟨left, rfl, rfl⟩
  · by_cases hback : back = []
    · exact .inl ⟨[], by simp [hback], by simp [hback]⟩
    · exact .inr ⟨back, hback, rfl, rfl⟩
  · exact .inl ⟨left, rfl, rfl⟩

/-! ### Parts of a line -/

theorem takeLine_chunk {limit : Nat} {part : List UInt8} (h : newline ∉ part)
    (hlen : part.length < limit) (rest : Input) :
    takeLine limit (.chunk part :: rest)
      = { takeLine (limit - part.length) rest with
          bytes := part ++ (takeLine (limit - part.length) rest).bytes } := by
  have hopen : ¬ (part.length = limit ∨ part.getLast? = some newline) := by
    rintro (heq | hlast)
    · omega
    · exact h (List.mem_of_getLast? hlast)
  rw [takeLine, List.take_of_length_le hlen.le, splitLine_of_notMem h]
  simp only [if_neg hopen]

theorem skipLine_chunk {part : List UInt8} (h : newline ∉ part) (rest : Input) :
    skipLine (.chunk part :: rest)
      = { skipLine rest with count := part.length + (skipLine rest).count } := by
  have hopen : part.getLast? ≠ some newline := fun hlast => h (List.mem_of_getLast? hlast)
  rw [skipLine, splitLine_of_notMem h]
  simp only [if_neg hopen]

/-- What does not reach the end of a line is taken with what follows it. -/
theorem takeLine_part {front : Input} (hfront : Unbroken front) {limit : Nat}
    (h : newline ∉ front.bytes) (hlen : front.bytes.length < limit) (tail : Input) :
    takeLine limit (front ++ tail)
      = { takeLine (limit - front.bytes.length) tail with
          bytes := front.bytes ++ (takeLine (limit - front.bytes.length) tail).bytes } := by
  induction front generalizing limit with
  | nil => rfl
  | cons delivery front ih =>
      obtain ⟨rfl | ⟨part, rfl⟩, hrest⟩ := hfront.of_cons
      · exact ih hrest h hlen
      · rw [bytes, List.mem_append, not_or] at h
        rw [bytes, List.length_append] at hlen
        rw [List.cons_append, takeLine_chunk h.1 (by omega), ih hrest h.2 (by omega), bytes,
          List.length_append, Nat.sub_sub]
        simp only [List.append_assoc]

theorem skipLine_part {front : Input} (hfront : Unbroken front) (h : newline ∉ front.bytes)
    (tail : Input) : skipLine (front ++ tail)
      = { skipLine tail with count := front.bytes.length + (skipLine tail).count } := by
  induction front with
  | nil => simp [bytes]
  | cons delivery front ih =>
      obtain ⟨rfl | ⟨part, rfl⟩, hrest⟩ := hfront.of_cons
      · exact ih hrest h
      · rw [bytes, List.mem_append, not_or] at h
        rw [List.cons_append, skipLine_chunk h.1, ih hrest h.2, bytes, List.length_append]
        simp only [Nat.add_assoc]

/-! ### Whole lines -/

/-- A line as it is taken within a limit: up to its newline, or as much as the limit allows. -/
def Whole (limit : Nat) (line : List UInt8) : Prop :=
  (∃ content, line = content ++ [newline] ∧ newline ∉ content ∧ content.length < limit) ∨
    (newline ∉ line ∧ line.length = limit)

/-- The first bytes of a whole line are no line, and those after them are whole within what they
leave of the limit. -/
theorem Whole.of_append {limit : Nat} {part line : List UInt8} (h : Whole limit (part ++ line))
    (hne : line ≠ []) : newline ∉ part ∧ part.length < limit ∧ Whole (limit - part.length) line := by
  obtain ⟨init, last, rfl⟩ := (List.eq_nil_or_concat' line).resolve_left hne
  rcases h with ⟨content, heq, hcontent, hlen⟩ | ⟨hline, hlen⟩
  · rw [← List.append_assoc] at heq
    obtain ⟨rfl, hlast⟩ := List.append_inj' heq rfl
    rw [List.mem_append, not_or] at hcontent
    rw [List.length_append] at hlen
    exact ⟨hcontent.1, by omega, .inl ⟨init, by rw [hlast], hcontent.2, by omega⟩⟩
  · rw [List.mem_append, not_or] at hline
    simp only [List.length_append, List.length_singleton] at hlen
    refine ⟨hline.1, by omega, .inr ⟨hline.2, ?_⟩⟩
    rw [List.length_append, List.length_singleton]
    omega

/-- **A whole line is taken**, across all chunks that bring some of it, and what is left of the
stream delivers the bytes behind it. -/
theorem takeLine_whole {front : Input} (hfront : Unbroken front) {limit : Nat}
    {line more : List UInt8} (hbytes : front.bytes = line ++ more) (h : Whole limit line)
    (hne : line ≠ []) (tail : Input) :
    ∃ rest, Unbroken rest ∧ rest.bytes = more ∧
      takeLine limit (front ++ tail) = ⟨line, none, rest ++ tail⟩ := by
  induction front generalizing limit line with
  | nil => exact absurd (List.append_eq_nil_iff.mp hbytes.symm).1 hne
  | cons delivery front ih =>
      obtain ⟨rfl | ⟨part, rfl⟩, hrest⟩ := hfront.of_cons
      · exact ih hrest hbytes h hne
      rw [List.cons_append]
      rcases exists_of_append_eq hbytes with ⟨left, rfl, rfl⟩ | ⟨back, hback, rfl, hmore⟩
      · -- the line ends in the first chunk
        refine ⟨pushChunk left front, hrest.pushChunk left, bytes_pushChunk left front, ?_⟩
        rcases h with ⟨content, rfl, hcontent, hlen⟩ | ⟨hline, hlen⟩
        · rw [List.append_assoc, List.singleton_append, takeLine_append hcontent hlen,
            pushChunk_append]
        · rw [takeLine_full hline hlen, pushChunk_append]
      · -- the first chunk is a part of the line
        obtain ⟨hpart, hlen, hwhole⟩ := h.of_append hback
        obtain ⟨rest, hunbroken, hbytes, htake⟩ := ih hrest hmore hwhole hback
        exact ⟨rest, hunbroken, hbytes, by rw [takeLine_chunk hpart hlen, htake]⟩

/-- A line is passed over in the same way. -/
theorem skipLine_ended {front : Input} (hfront : Unbroken front) {line more : List UInt8}
    (hbytes : front.bytes = line ++ newline :: more) (h : newline ∉ line) (tail : Input) :
    ∃ rest, Unbroken rest ∧ rest.bytes = more ∧
      skipLine (front ++ tail) = ⟨line.length + 1, none, rest ++ tail⟩ := by
  induction front generalizing line with
  | nil => simp [bytes] at hbytes
  | cons delivery front ih =>
      obtain ⟨rfl | ⟨part, rfl⟩, hrest⟩ := hfront.of_cons
      · exact ih hrest hbytes h
      rw [List.cons_append]
      rw [List.append_cons] at hbytes
      rcases exists_of_append_eq hbytes with ⟨left, rfl, rfl⟩ | ⟨back, hback, hline, hmore⟩
      · refine ⟨pushChunk left front, hrest.pushChunk left, bytes_pushChunk left front, ?_⟩
        rw [List.append_assoc, List.singleton_append, skipLine_append h, pushChunk_append]
      · obtain ⟨content, last, rfl⟩ := (List.eq_nil_or_concat' back).resolve_left hback
        rw [← List.append_assoc] at hline
        obtain ⟨rfl, hlast⟩ := List.append_inj' hline rfl
        rw [List.mem_append, not_or] at h
        rw [← hlast, List.append_assoc, List.singleton_append] at hmore
        obtain ⟨rest, hunbroken, hbytes, hskip⟩ := ih hrest hmore h.2
        refine ⟨rest, hunbroken, hbytes, ?_⟩
        rw [skipLine_chunk h.1, hskip, List.length_append, Nat.add_assoc]

end Input

namespace LineBuffer
open Input

/-- The buffer with as much of a line as it stores, the line end included. -/
def stored (b : LineBuffer) (line : List UInt8) : LineBuffer :=
  { b with bytes := line.take b.limit, dropped := line.length - b.limit }

theorem limit_pos (b : LineBuffer) : 0 < b.limit := Nat.succ_pos _

theorem stored_of_le {b : LineBuffer} {line : List UInt8} (h : line.length ≤ b.limit) :
    b.stored line = { b with bytes := line, dropped := 0 } := by
  rw [stored, List.take_of_length_le h, Nat.sub_eq_zero_of_le h]

/-- **A buffer reads a line with its newline**, whatever its length, and nothing of what follows. -/
theorem fill_ended_line (b : LineBuffer) {front : Input} (hfront : Unbroken front)
    {line more : List UInt8} (hbytes : front.bytes = line ++ newline :: more) (h : newline ∉ line)
    (tail : Input) :
    ∃ rest, Unbroken rest ∧ rest.bytes = more ∧
      b.fill (front ++ tail) = ⟨.ok true, b.stored (line ++ [newline]), rest ++ tail⟩ := by
  by_cases hfits : line.length < b.limit
  · rw [List.append_cons] at hbytes
    obtain ⟨rest, hrest, hmore, htake⟩ :=
      takeLine_whole hfront hbytes (.inl ⟨line, rfl, h, hfits⟩) (by simp) tail
    have hlen : (line ++ [newline]).length ≤ b.limit := by simpa using hfits
    refine ⟨rest, hrest, hmore, ?_⟩
    rw [stored_of_le hlen, fill_of_takeLine htake List.getLast?_concat]
  · -- the buffer is full in front of the newline, and the rest of the line is passed over
    obtain ⟨kept, passed, rfl, hkept⟩ := exists_kept (not_lt.mp hfits)
    rw [List.mem_append, not_or] at h
    rw [List.append_assoc] at hbytes
    have hne : kept ≠ [] := List.length_pos_iff.mp (hkept ▸ b.limit_pos)
    obtain ⟨rest, hrest, hmore, htake⟩ :=
      takeLine_whole hfront hbytes (.inr ⟨h.1, hkept⟩) hne tail
    obtain ⟨rest', hrest', hmore', hskip⟩ := skipLine_ended hrest hmore h.2 tail
    refine ⟨rest', hrest', hmore', ?_⟩
    rw [fill_of_cut htake hkept h.1 hskip, stored, List.append_assoc, List.take_left' hkept,
      List.length_append, hkept, Nat.add_sub_cancel_left, List.length_append,
      List.length_singleton]

theorem fill_of_short {b : LineBuffer} {input rest : Input} {bytes : List UInt8}
    (h : takeLine b.limit input = ⟨bytes, none, rest⟩) (hlen : bytes.length < b.limit) :
    b.fill input = ⟨.ok (!bytes.isEmpty), { b with bytes, dropped := 0 }, rest⟩ := by
  have hwhole : ({ b with bytes, dropped := 0 } : LineBuffer).isCut = false := by
    rw [isCut, Bool.and_eq_false_iff, beq_eq_false_iff_ne]
    exact .inl hlen.ne
  simp [fill, h, hwhole]

/-- **The last line ends with the stream**; there is none where nothing is left. -/
theorem fill_last_line (b : LineBuffer) {input : Input} (hinput : Unbroken input)
    (h : newline ∉ input.bytes) :
    b.fill input = ⟨.ok (!input.bytes.isEmpty), b.stored input.bytes, []⟩ := by
  by_cases hfits : input.bytes.length < b.limit
  · have htake := takeLine_part hinput h hfits []
    simp only [List.append_nil, takeLine] at htake
    rw [fill_of_short htake hfits, stored_of_le hfits.le]
  · obtain ⟨kept, passed, hsplit, hkept⟩ := exists_kept (not_lt.mp hfits)
    have hne : kept ≠ [] := List.length_pos_iff.mp (hkept ▸ b.limit_pos)
    rw [hsplit, List.mem_append, not_or] at h
    obtain ⟨rest, hrest, hmore, htake⟩ :=
      takeLine_whole hinput hsplit (.inr ⟨h.1, hkept⟩) hne []
    have hskip := skipLine_part hrest (hmore ▸ h.2) []
    simp only [List.append_nil, skipLine] at htake hskip
    rw [fill_of_cut htake hkept h.1 hskip, hsplit, hmore, stored, List.take_left' hkept,
      List.length_append, hkept, Nat.add_sub_cancel_left]
    simp [hne]

end LineBuffer

end BoardConsole
