import BoardConsole.Lines.Buffer
import BoardConsole.Proofs.Text.Cut

/-!
# Lines — What a line buffer reads

Of any line a buffer gives, and of the lines that a program wrote, ended by CR LF.

* `Typed`: the lines that a buffer of a length gives.  They have no more characters than that
  (`Typed.length_le`), and no newline (`Typed.oneLine`).
* `fill_ended`: from bytes that begin with a line and its CR LF, that line is read and nothing of
  what follows, whatever its length; the buffer keeps `maxLen + 2` bytes of it.
* `readBack_append`: what is read where a text was written begins like the text; it is the text
  where that is no longer than `maxLen` bytes (`readBack_of_le`).
-/

namespace BoardConsole

namespace Input

theorem splitLine_of_notMem {bytes : List UInt8} (h : newline ∉ bytes) :
    splitLine bytes = (bytes, []) := by
  have htake : bytes.takeWhile (· != newline) = bytes := by
    rw [List.takeWhile_eq_self_iff]
    intro b hb
    exact bne_iff_ne.mpr fun heq => h (heq ▸ hb)
  rw [splitLine, htake, List.drop_length]

theorem splitLine_append {front : List UInt8} (h : newline ∉ front) (back : List UInt8) :
    splitLine (front ++ newline :: back) = (front ++ [newline], back) := by
  have htake : (front ++ newline :: back).takeWhile (· != newline) = front := by
    rw [List.takeWhile_append_of_pos, List.takeWhile_cons_of_neg (by simp), List.append_nil]
    intro b hb
    exact bne_iff_ne.mpr fun heq => h (heq ▸ hb)
  rw [splitLine, htake, List.drop_left]

/-- A newline stands at the end of a line, if anywhere in it. -/
theorem exists_splitLine (bytes : List UInt8) :
    ∃ front, newline ∉ front ∧
      ((splitLine bytes).1 = front ∨ (splitLine bytes).1 = front ++ [newline]) := by
  by_cases h : newline ∈ bytes
  · obtain ⟨front, back, rfl, hfront⟩ := List.eq_append_cons_of_mem h
    exact ⟨front, hfront, .inr (by rw [splitLine_append hfront])⟩
  · exact ⟨bytes, h, .inl (by rw [splitLine_of_notMem h])⟩

theorem takeLine_append {limit : Nat} {front : List UInt8} (h : newline ∉ front)
    (hlen : front.length < limit) (back : List UInt8) (rest : Input) :
    takeLine limit (.chunk (front ++ newline :: back) :: rest)
      = ⟨front ++ [newline], none, pushChunk back rest⟩ := by
  have htake : (front ++ newline :: back).take limit
      = front ++ newline :: back.take (limit - (front.length + 1)) := by
    obtain ⟨k, rfl⟩ := Nat.exists_eq_add_of_lt hlen
    rw [List.take_append, List.take_of_length_le (by omega), Nat.add_assoc,
      Nat.add_sub_cancel_left, List.take_succ_cons, ← Nat.add_assoc,
      show front.length + k + 1 - (front.length + 1) = k by omega]
  have hdrop : (front ++ newline :: back).drop (front ++ [newline]).length = back := by
    rw [List.append_cons front newline back, List.drop_left]
  rw [takeLine, htake, splitLine_append h]
  simp only [List.getLast?_concat, or_true, if_true, hdrop]

theorem takeLine_full {limit : Nat} {front : List UInt8} (h : newline ∉ front)
    (hlen : front.length = limit) (back : List UInt8) (rest : Input) :
    takeLine limit (.chunk (front ++ back) :: rest) = ⟨front, none, pushChunk back rest⟩ := by
  subst hlen
  rw [takeLine, List.take_left, splitLine_of_notMem h]
  simp only [true_or, if_true, List.drop_left]

theorem skipLine_append {front : List UInt8} (h : newline ∉ front) (back : List UInt8)
    (rest : Input) : skipLine (.chunk (front ++ newline :: back) :: rest)
      = ⟨front.length + 1, none, pushChunk back rest⟩ := by
  rw [skipLine, splitLine_append h]
  simp only [List.getLast?_concat, if_true, List.length_append, List.length_singleton]

theorem exists_takeLine (limit : Nat) (input : Input) :
    ∃ front, newline ∉ front ∧
      ((takeLine limit input).bytes = front ∨
        (takeLine limit input).bytes = front ++ [newline]) := by
  induction input generalizing limit with
  | nil => exact ⟨[], by simp, .inl rfl⟩
  | cons delivery rest ih =>
      match delivery with
      | .failure .interrupted => exact ih limit
      | .failure .brokenPipe => exact ⟨[], by simp, .inl rfl⟩
      | .failure .isADirectory => exact ⟨[], by simp, .inl rfl⟩
      | .chunk bytes =>
          obtain ⟨front, hfront, hline⟩ := exists_splitLine (bytes.take limit)
          rw [takeLine]
          dsimp only
          split_ifs with hwhole
          · exact ⟨front, hfront, hline⟩
          · obtain ⟨front', hfront', hmore⟩ := ih (limit - (splitLine (bytes.take limit)).1.length)
            rcases hline with hline | hline
            · rw [hline] at hmore ⊢
              refine ⟨front ++ front', by simp [hfront, hfront'], ?_⟩
              rcases hmore with hmore | hmore
              · exact .inl (by rw [hmore])
              · exact .inr (by rw [hmore, List.append_assoc])
            · exact absurd (.inr (by rw [hline, List.getLast?_concat])) hwhole

end Input

namespace LineBuffer
open Text Input

theorem content_eq (b : LineBuffer) : b.content = b.bytes.rdropWhile isLineEnd := rfl

/-! ### Lines that are read -/

theorem bytes_fill (b : LineBuffer) (input : Input) :
    (b.fill input).buffer.bytes = (takeLine b.limit input).bytes ∧
      (b.fill input).buffer.maxLen = b.maxLen := by
  unfold fill
  dsimp only
  split
  · exact ⟨rfl, rfl⟩
  · split
    · split <;> exact ⟨rfl, rfl⟩
    · exact ⟨rfl, rfl⟩

theorem length_line_le (b : LineBuffer) : b.line.toList.length ≤ b.maxLen := by
  rw [line, Utf8.decode, String.toList_ofList]
  exact (Utf8.length_decodeChars_le _).trans (List.length_take_le _ _)

theorem notMem_line {b : LineBuffer} (h : newline ∉ b.content) : '\n' ∉ b.line.toList := by
  rw [line, Utf8.decode, String.toList_ofList]
  intro hmem
  have hbyte := Utf8.mem_of_mem_decodeChars (c := '\n') (by decide) (by decide) hmem
  exact h (List.mem_of_mem_take hbyte)

theorem notMem_content {b : LineBuffer} {front : List UInt8} (hfront : newline ∉ front)
    (h : b.bytes = front ∨ b.bytes = front ++ [newline]) : newline ∉ b.content := by
  have hcontent : b.content = front.rdropWhile isLineEnd := by
    rw [content_eq]
    rcases h with h | h
    · rw [h]
    · rw [h, List.rdropWhile_concat_pos _ _ _ (by decide)]
  rw [hcontent]
  exact fun hmem => hfront ((List.rdropWhile_prefix _ _).subset hmem)

/-- A line that a buffer of a length gives. -/
def Typed (maxLen : Nat) (line : String) : Prop :=
  ∃ input, ((new maxLen).fill input).more = .ok true ∧
    ((new maxLen).fill input).buffer.line = line

theorem Typed.length_le {maxLen : Nat} {line : String} (h : Typed maxLen line) :
    line.toList.length ≤ maxLen := by
  obtain ⟨input, -, rfl⟩ := h
  have hlen := length_line_le ((new maxLen).fill input).buffer
  rwa [(bytes_fill (new maxLen) input).2] at hlen

theorem Typed.oneLine {maxLen : Nat} {line : String} (h : Typed maxLen line) :
    '\n' ∉ line.toList := by
  obtain ⟨input, -, rfl⟩ := h
  obtain ⟨front, hfront, hbytes⟩ := exists_takeLine (new maxLen).limit input
  rw [← (bytes_fill (new maxLen) input).1] at hbytes
  exact notMem_line (notMem_content hfront hbytes)

/-! ### Lines that were written -/

/-- The end of a line that is written. -/
def lineEnd : List UInt8 := [13, 10]

/-- The buffer with the bytes of a line and its end, as many as it stores. -/
def holding (maxLen : Nat) (bytes : List UInt8) : LineBuffer :=
  { new maxLen with bytes := (bytes ++ lineEnd).take (maxLen + 2) }

/-- The line that is read where a line of some text was written. -/
def readBack (maxLen : Nat) (text : String) : String := (holding maxLen (Utf8.encode text)).line

theorem fill_of_takeLine {b : LineBuffer} {input rest : Input} {bytes : List UInt8}
    (h : takeLine b.limit input = ⟨bytes, none, rest⟩) (hlast : bytes.getLast? = some newline) :
    b.fill input = ⟨.ok true, { b with bytes, dropped := 0 }, rest⟩ := by
  have hne : bytes ≠ [] := by
    rintro rfl
    cases hlast
  have hwhole : ({ b with bytes, dropped := 0 } : LineBuffer).isCut = false := by
    simp [isCut, hlast]
  simp [fill, h, hwhole, hne]

theorem isCut_of_full {b : LineBuffer} (hlen : b.bytes.length = b.limit) (h : newline ∉ b.bytes) :
    b.isCut = true := by
  simp only [isCut, Bool.and_eq_true, beq_iff_eq, bne_iff_ne]
  exact ⟨hlen, fun heq => h (List.mem_of_getLast? heq)⟩

/-- A line that fills a buffer is what is kept of it, and what is passed over. -/
theorem exists_kept {limit : Nat} {line : List UInt8} (h : limit ≤ line.length) :
    ∃ kept passed, line = kept ++ passed ∧ kept.length = limit :=
  ⟨line.take limit, line.drop limit, (List.take_append_drop _ _).symm, List.length_take_of_le h⟩

theorem fill_of_cut {b : LineBuffer} {input rest rest' : Input} {bytes : List UInt8} {dropped : Nat}
    (h : takeLine b.limit input = ⟨bytes, none, rest⟩) (hlen : bytes.length = b.limit)
    (hlast : newline ∉ bytes) (hskip : skipLine rest = ⟨dropped, none, rest'⟩) :
    b.fill input = ⟨.ok true, { b with bytes, dropped }, rest'⟩ := by
  have hcut : ({ b with bytes, dropped := 0 } : LineBuffer).isCut = true := isCut_of_full hlen hlast
  simp [fill, h, hcut, hskip]

/-- **A line that was written is read in one piece**, and nothing of what follows it, be it as long
as it may. -/
theorem fill_ended (maxLen : Nat) {bytes : List UInt8} (h : newline ∉ bytes) (more : List UInt8) :
    ∃ dropped, (new maxLen).fill [.chunk (bytes ++ lineEnd ++ more)]
      = ⟨.ok true, { holding maxLen bytes with dropped }, pushChunk more []⟩ := by
  have hcr : newline ∉ bytes ++ [13] := by
    rw [List.mem_append, not_or]
    exact ⟨h, by decide⟩
  have hended : bytes ++ lineEnd = (bytes ++ [13]) ++ [newline] := by simp [lineEnd, newline]
  have hshape : bytes ++ lineEnd ++ more = (bytes ++ [13]) ++ newline :: more := by
    rw [hended, List.append_assoc, List.singleton_append]
  have hlen : (bytes ++ [13]).length = bytes.length + 1 := List.length_append
  rw [hshape, holding, hended]
  by_cases hfits : bytes.length ≤ maxLen
  · -- the whole line is taken, up to its newline
    rw [List.take_of_length_le (by simp only [List.length_append, List.length_singleton]; omega)]
    refine ⟨0, fill_of_takeLine (takeLine_append hcr ?_ more []) List.getLast?_concat⟩
    rw [hlen]
    exact Nat.succ_lt_succ (Nat.lt_succ_of_le hfits)
  · -- the buffer is full before the newline, and the rest of the line is passed over
    obtain ⟨kept, passed, hsplit, hkept⟩ :=
      exists_kept (show maxLen + 2 ≤ (bytes ++ [13]).length by omega)
    rw [hsplit, List.mem_append, not_or] at hcr
    have htake : takeLine (new maxLen).limit [.chunk (kept ++ (passed ++ newline :: more))]
        = ⟨kept, none, [.chunk (passed ++ newline :: more)]⟩ := by
      rw [show (new maxLen).limit = maxLen + 2 from rfl, takeLine_full hcr.1 hkept, pushChunk,
        if_neg (by simp)]
    rw [hsplit, List.append_assoc, List.append_assoc, List.take_left' hkept]
    exact ⟨passed.length + 1, fill_of_cut htake hkept hcr.1 (skipLine_append hcr.2 more [])⟩

/-! ### Reading a written line back -/

theorem rdropWhile_append {front : List UInt8} (h : front.rdropWhile isLineEnd = front)
    (back : List UInt8) :
    (front ++ back).rdropWhile isLineEnd = front ++ back.rdropWhile isLineEnd := by
  rw [List.rdropWhile, List.reverse_append, List.dropWhile_append]
  split_ifs with hback
  · have hnil : back.rdropWhile isLineEnd = [] := by
      rw [List.rdropWhile, List.isEmpty_iff.mp hback, List.reverse_nil]
    rw [hnil, List.append_nil]
    exact h
  · rw [List.reverse_append, List.reverse_reverse]
    rfl

theorem isLineEnd_of_mem : ∀ b ∈ lineEnd, isLineEnd b := List.all_eq_true.mp (by decide)

/-- A line end that is cut off somewhere leaves a beginning of the line. -/
theorem prefix_of_lineEnd (bytes : List UInt8) (k : Nat) :
    ((bytes ++ lineEnd).take k).rdropWhile isLineEnd <+: bytes := by
  rw [List.take_append]
  by_cases hk : k ≤ bytes.length
  · rw [Nat.sub_eq_zero_of_le hk, List.take_zero, List.append_nil]
    exact (List.rdropWhile_prefix _ _).trans (List.take_prefix _ _)
  · have hends : ∀ b ∈ (lineEnd.take (k - bytes.length)).reverse, isLineEnd b := fun b hb =>
      isLineEnd_of_mem b (List.mem_of_mem_take (List.mem_reverse.mp hb))
    rw [List.take_of_length_le (by omega), List.rdropWhile, List.reverse_append,
      List.dropWhile_append_of_pos hends]
    exact List.rdropWhile_prefix _ _

/-- A text that does not end like a line. -/
def Unended (text : String) : Prop :=
  (Utf8.encode text).rdropWhile isLineEnd = Utf8.encode text

instance (text : String) : Decidable (Unended text) := inferInstanceAs (Decidable (_ = _))

theorem Unended.append {last : String} (h : Unended last) (hne : Utf8.encode last ≠ [])
    (text : String) : Unended (text ++ last) := by
  unfold Unended at h ⊢
  have hrev : (Utf8.encode last).reverse.dropWhile isLineEnd = (Utf8.encode last).reverse := by
    rw [← List.reverse_inj, List.reverse_reverse]
    exact h
  rw [Utf8.encode_append, List.rdropWhile, List.reverse_append, List.dropWhile_append, hrev,
    if_neg (by simpa using hne), ← List.reverse_append, List.reverse_reverse]

/-- **A line that was written is read back from its front on.**  If its front is no longer than the
buffer and does not end like a line, then it is read, and behind it a beginning of the rest. -/
theorem readBack_append {maxLen : Nat} {front : String} (hfront : Unended front)
    (hlen : Utf8.size front ≤ maxLen) (back : String) :
    ∃ kept, kept <+: Utf8.encode back ∧ kept.length ≤ maxLen - Utf8.size front ∧
      (readBack maxLen (front ++ back)).toList = front.toList ++ Utf8.decodeChars kept := by
  have hlength : (Utf8.encode front).length = Utf8.size front := rfl
  have hcontent : (holding maxLen (Utf8.encode (front ++ back))).content = Utf8.encode front ++
      ((Utf8.encode back ++ lineEnd).take (maxLen + 2 - Utf8.size front)).rdropWhile isLineEnd := by
    rw [content_eq, holding, Utf8.encode_append, List.append_assoc]
    dsimp only
    rw [List.take_append, List.take_of_length_le (by omega), rdropWhile_append hfront, hlength]
  refine ⟨((((Utf8.encode back ++ lineEnd).take (maxLen + 2 - Utf8.size front)).rdropWhile
    isLineEnd).take (maxLen - Utf8.size front)), ?_, List.length_take_le _ _, ?_⟩
  · exact (List.take_prefix _ _).trans (prefix_of_lineEnd _ _)
  · rw [readBack, line, hcontent, Utf8.decode, String.toList_ofList]
    show Utf8.decodeChars (List.take maxLen _) = _
    rw [List.take_append, List.take_of_length_le (by omega), hlength, Utf8.encode_eq,
      Utf8.decodeChars_encodeChars]

/-- A line that the buffer has room for is read back as it was. -/
theorem readBack_of_le {maxLen : Nat} {text : String} (htext : Unended text)
    (hlen : Utf8.size text ≤ maxLen) : readBack maxLen text = text := by
  obtain ⟨kept, hkept, -, hread⟩ := readBack_append htext hlen ""
  obtain rfl : kept = [] := List.prefix_nil.mp hkept
  rw [String.append_empty, Utf8.decodeChars, List.append_nil] at hread
  exact String.toList_inj.mp hread

/-- Of a line whose front fills the buffer, the front is read back. -/
theorem readBack_of_eq {maxLen : Nat} {front : String} (hfront : Unended front)
    (hlen : Utf8.size front = maxLen) (back : String) :
    readBack maxLen (front ++ back) = front := by
  obtain ⟨kept, -, hkept, hread⟩ := readBack_append hfront hlen.le back
  obtain rfl : kept = [] := List.eq_nil_of_length_eq_zero (by omega)
  rw [Utf8.decodeChars, List.append_nil] at hread
  exact String.toList_inj.mp hread

end LineBuffer

end BoardConsole
