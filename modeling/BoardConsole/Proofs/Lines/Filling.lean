import BoardConsole.Proofs.Lines.Stream
import Mathlib

/-!
# Lines — One line, out of any stream

What filling a buffer does is settled by the bytes and the faults of the stream, in their order
(`stream`): a newline may come first, or the end of the stream, or a fault (`exists_next`).  In the
first two cases a line is read, and no byte is lost or read twice.

* `fill_broken`: a fault in front of the newline is passed on, be it met while the line is stored or
  while the rest of it is passed over.
* `fill_conserves`: a line is read exactly where no fault comes first.  It is the stream up to its
  newline or its end; the buffer keeps the first `maxLen + 2` bytes of it and counts the others.
-/

namespace BoardConsole

namespace Input

/-- What a stream delivers: bytes, and the faults that break a read off. A read that is interrupted
is made again, so it does not show. -/
def stream : Input → List (Except ReadFault UInt8)
  | []                            => []
  | .chunk bytes :: rest          => bytes.map .ok ++ stream rest
  | .failure .interrupted :: rest => stream rest
  | .failure fault :: rest        => .error fault :: stream rest

/-- The line does not end with what is delivered. -/
def goesOn (delivered : Except ReadFault UInt8) : Bool := delivered != .ok newline

/-- No fault stands in front of the first newline. -/
def Undisturbed (input : Input) : Prop := ∀ fault, .error fault ∉ input.stream.takeWhile goesOn

/-! ### Faults -/

theorem stream_failure {fault : ReadFault} (h : fault ≠ .interrupted) (rest : Input) :
    stream (.failure fault :: rest) = .error fault :: stream rest := by
  cases fault with
  | interrupted  => exact absurd rfl h
  | brokenPipe   => rfl
  | isADirectory => rfl

theorem takeLine_failure {fault : ReadFault} (h : fault ≠ .interrupted) (limit : Nat)
    (rest : Input) : takeLine limit (.failure fault :: rest) = ⟨[], some fault, rest⟩ := by
  cases fault with
  | interrupted  => exact absurd rfl h
  | brokenPipe   => rfl
  | isADirectory => rfl

theorem skipLine_failure {fault : ReadFault} (h : fault ≠ .interrupted) (rest : Input) :
    skipLine (.failure fault :: rest) = ⟨0, some fault, rest⟩ := by
  cases fault with
  | interrupted  => exact absurd rfl h
  | brokenPipe   => rfl
  | isADirectory => rfl

theorem stream_append {front : Input} (hfront : Unbroken front) (tail : Input) :
    stream (front ++ tail) = front.bytes.map .ok ++ stream tail := by
  induction front with
  | nil => rfl
  | cons delivery front ih =>
      obtain ⟨rfl | ⟨part, rfl⟩, hrest⟩ := hfront.of_cons
      · exact ih hrest
      · rw [List.cons_append, stream, ih hrest, bytes, List.map_append, List.append_assoc]

theorem stream_of_unbroken {input : Input} (h : Unbroken input) :
    stream input = input.bytes.map .ok := by
  simpa [stream] using stream_append h []

/-! ### What comes first -/

theorem Unbroken.cons {delivery : Delivery} {input : Input}
    (hdelivery : ∀ fault, delivery = .failure fault → fault = .interrupted)
    (h : Unbroken input) : Unbroken (delivery :: input) := by
  intro fault hmem
  rcases List.mem_cons.mp hmem with heq | hmem
  · exact hdelivery fault heq.symm
  · exact h fault hmem

/-- A stream is unbroken up to its first fault. -/
theorem exists_unbroken (input : Input) :
    Unbroken input ∨ ∃ front fault tail, Unbroken front ∧ fault ≠ .interrupted ∧
      input = front ++ .failure fault :: tail := by
  induction input with
  | nil => exact .inl fun _ hmem => absurd hmem List.not_mem_nil
  | cons delivery input ih =>
      by_cases hdelivery : ∀ fault, delivery = .failure fault → fault = .interrupted
      · rcases ih with hinput | ⟨front, fault, tail, hfront, hfault, rfl⟩
        · exact .inl (hinput.cons hdelivery)
        · exact .inr ⟨delivery :: front, fault, tail, hfront.cons hdelivery, hfault, rfl⟩
      · push Not at hdelivery
        obtain ⟨fault, rfl, hfault⟩ := hdelivery
        exact .inr ⟨[], fault, input, fun _ hmem => absurd hmem List.not_mem_nil, hfault, rfl⟩

/-- **What comes first** in a stream: a newline, its end, or a fault. -/
theorem exists_next (input : Input) :
    (∃ front line more tail, Unbroken front ∧ front.bytes = line ++ newline :: more ∧
        newline ∉ line ∧ input = front ++ tail) ∨
      (Unbroken input ∧ newline ∉ input.bytes) ∨
      ∃ front fault tail, Unbroken front ∧ newline ∉ front.bytes ∧ fault ≠ .interrupted ∧
        input = front ++ .failure fault :: tail := by
  rcases exists_unbroken input with hinput | ⟨front, fault, tail, hfront, hfault, rfl⟩
  · by_cases h : newline ∈ input.bytes
    · obtain ⟨line, more, hbytes, hline⟩ := List.eq_append_cons_of_mem h
      exact .inl ⟨input, line, more, [], hinput, hbytes, hline, (List.append_nil _).symm⟩
    · exact .inr (.inl ⟨hinput, h⟩)
  · by_cases h : newline ∈ front.bytes
    · obtain ⟨line, more, hbytes, hline⟩ := List.eq_append_cons_of_mem h
      exact .inl ⟨front, line, more, _, hfront, hbytes, hline, rfl⟩
    · exact .inr (.inr ⟨front, fault, tail, hfront, h, hfault, rfl⟩)

/-! ### Undisturbed lines -/

theorem takeWhile_goesOn {line : List UInt8} (h : newline ∉ line)
    (behind : List (Except ReadFault UInt8)) :
    (line.map Except.ok ++ behind).takeWhile goesOn
      = line.map Except.ok ++ behind.takeWhile goesOn := by
  refine List.takeWhile_append_of_pos fun delivered hmem => ?_
  obtain ⟨byte, hbyte, rfl⟩ := List.mem_map.mp hmem
  have hne : byte ≠ newline := fun heq => h (heq ▸ hbyte)
  simpa [goesOn] using hne

theorem undisturbed_of_newline {input : Input} {line : List UInt8}
    {behind : List (Except ReadFault UInt8)} (h : newline ∉ line)
    (hstream : input.stream = line.map .ok ++ .ok newline :: behind) : Undisturbed input := by
  intro fault
  rw [hstream, takeWhile_goesOn h, List.takeWhile_cons_of_neg (by simp [goesOn])]
  simp

theorem undisturbed_of_unbroken {input : Input} (hinput : Unbroken input)
    (h : newline ∉ input.bytes) : Undisturbed input := by
  intro fault
  have htake := takeWhile_goesOn h []
  rw [List.append_nil, List.takeWhile_nil, List.append_nil] at htake
  rw [stream_of_unbroken hinput, htake]
  simp

theorem not_undisturbed_of_fault {input : Input} {line : List UInt8} {fault : ReadFault}
    {behind : List (Except ReadFault UInt8)} (h : newline ∉ line)
    (hstream : input.stream = line.map .ok ++ .error fault :: behind) : ¬ Undisturbed input := by
  intro hundisturbed
  refine hundisturbed fault ?_
  rw [hstream, takeWhile_goesOn h, List.takeWhile_cons_of_pos (by simp [goesOn])]
  exact List.mem_append_right _ List.mem_cons_self

end Input

namespace LineBuffer
open Input

/-! ### Filling a buffer -/

/-- **A fault in front of the newline is passed on**, wherever in its line it stands. -/
theorem fill_broken (b : LineBuffer) {front : Input} (hfront : Unbroken front)
    (h : newline ∉ front.bytes) {fault : ReadFault} (hfault : fault ≠ .interrupted) (tail : Input) :
    (b.fill (front ++ .failure fault :: tail)).more = .error fault := by
  by_cases hfits : front.bytes.length < b.limit
  · have htake := takeLine_part hfront h hfits (.failure fault :: tail)
    rw [takeLine_failure hfault] at htake
    simp [fill, htake]
  · -- the buffer is full in front of the fault, which is met where the rest is passed over
    obtain ⟨kept, passed, hsplit, hkept⟩ := exists_kept (not_lt.mp hfits)
    have hne : kept ≠ [] := List.length_pos_iff.mp (hkept ▸ b.limit_pos)
    rw [hsplit, List.mem_append, not_or] at h
    obtain ⟨rest, hrest, hmore, htake⟩ :=
      takeLine_whole hfront hsplit (.inr ⟨h.1, hkept⟩) hne (.failure fault :: tail)
    have hskip := skipLine_part hrest (hmore ▸ h.2) (.failure fault :: tail)
    rw [skipLine_failure hfault] at hskip
    have hcut : ({ b with bytes := kept, dropped := 0 } : LineBuffer).isCut = true :=
      isCut_of_full hkept h.1
    simp [fill, htake, hcut, hskip]

/-- Of the bytes that a buffer stores, those that go into its text: as many as there is room for, and
all but the line end where there is room for all. -/
theorem exists_text (b : LineBuffer) :
    ∃ kept, kept <+: b.bytes ∧ kept <+: b.content ∧ kept.length ≤ b.maxLen ∧
      (kept.length = b.maxLen ∨ ∀ byte ∈ b.bytes.drop kept.length, isLineEnd byte) ∧
      b.line = Text.Utf8.decode kept := by
  have hcontent : b.content <+: b.bytes := List.rdropWhile_prefix _ _
  refine ⟨b.content.take b.maxLen, (List.take_prefix _ _).trans hcontent, List.take_prefix _ _,
    List.length_take_le _ _, ?_, rfl⟩
  by_cases hroom : b.maxLen ≤ b.content.length
  · exact .inl (List.length_take_of_le hroom)
  · right
    have hsplit : b.bytes = b.content ++ b.bytes.rtakeWhile isLineEnd :=
      List.rdropWhile_append_rtakeWhile.symm
    rw [List.take_of_length_le (not_le.mp hroom).le, hsplit, List.drop_left]
    exact fun byte hbyte => List.mem_rtakeWhile_imp hbyte

theorem notMem_content_fill (b : LineBuffer) (input : Input) :
    newline ∉ (b.fill input).buffer.content := by
  obtain ⟨front, hfront, htaken⟩ := exists_takeLine b.limit input
  rw [← (bytes_fill b input).1] at htaken
  exact notMem_content hfront htaken

/-- What it is to have read a line of a stream. -/
structure ReadLine (b : LineBuffer) (input : Input) (line : List UInt8) (filled : Filled) :
    Prop where
  /-- Nothing but the line is gone from the stream. -/
  conserved : input.stream = line.map .ok ++ filled.rest.stream
  /-- It goes up to its newline, or to the end of the stream where there is none. -/
  whole     : (∃ content, line = content ++ [newline] ∧ newline ∉ content) ∨
    (newline ∉ line ∧ filled.rest.stream = [])
  more      : filled.more = .ok (!line.isEmpty)
  maxLen    : filled.buffer.maxLen = b.maxLen
  bytes     : filled.buffer.bytes = line.take (b.maxLen + 2)
  dropped   : filled.buffer.dropped = line.length - filled.buffer.bytes.length
  /-- Its text decodes the first bytes of it, no more than there is room for, and leaves out nothing
  but the line end where there is room for more. -/
  text      : ∃ kept, kept <+: line ∧ kept.length ≤ b.maxLen ∧ newline ∉ kept ∧
    (kept.length = b.maxLen ∨ ∀ byte ∈ filled.buffer.bytes.drop kept.length, isLineEnd byte) ∧
    filled.buffer.line = Text.Utf8.decode kept

theorem ReadLine.of_stored {b : LineBuffer} {input : Input} {line : List UInt8}
    (hconserved : input.stream = line.map .ok ++ (b.fill input).rest.stream)
    (hwhole : (∃ content, line = content ++ [newline] ∧ newline ∉ content) ∨
      (newline ∉ line ∧ (b.fill input).rest.stream = []))
    (hmore : (b.fill input).more = .ok (!line.isEmpty))
    (hstored : (b.fill input).buffer = b.stored line) : ReadLine b input line (b.fill input) where
  conserved := hconserved
  whole     := hwhole
  more      := hmore
  maxLen    := by rw [hstored, stored]
  bytes     := by rw [hstored, stored, limit]
  dropped   := by
    rw [hstored, stored]
    dsimp only
    rw [List.length_take]
    omega
  text      := by
    obtain ⟨kept, hbytes, hcontent, hlen, hend, hline⟩ := exists_text (b.fill input).buffer
    have hnewline := notMem_content_fill b input
    rw [(bytes_fill b input).2] at hlen hend
    rw [hstored] at hbytes
    exact ⟨kept, hbytes.trans (List.take_prefix _ _), hlen,
      fun hmem => hnewline (hcontent.subset hmem), hend, hline⟩

/-- **Reading a line conserves bytes.**  Whatever the buffer held, and however the stream is cut and
its reads are interrupted, a line is read exactly where no fault stands in front of the newline.  The
line is all that is gone from the stream, and it is empty only where the stream was at its end.  Its
first `maxLen + 2` bytes are stored, the others are counted, and the text has no more than `maxLen`
of them and no newline. -/
theorem fill_conserves (b : LineBuffer) (input : Input) :
    ((∃ more, (b.fill input).more = .ok more) ↔ Undisturbed input) ∧
      (Undisturbed input → ∃ line, ReadLine b input line (b.fill input)) := by
  rcases exists_next input with ⟨front, line, more, tail, hfront, hbytes, hline, rfl⟩ |
      ⟨hinput, hline⟩ | ⟨front, fault, tail, hfront, hline, hfault, rfl⟩
  · -- a newline comes first
    obtain ⟨rest, hrest, hmore, hfill⟩ := fill_ended_line b hfront hbytes hline tail
    have hstream : stream (front ++ tail) = line.map .ok ++ .ok newline :: stream (rest ++ tail) := by
      rw [stream_append hfront, stream_append hrest, hbytes, hmore]
      simp
    have hundisturbed := undisturbed_of_newline hline hstream
    refine ⟨⟨fun _ => hundisturbed, fun _ => ⟨true, by rw [hfill]⟩⟩, fun _ => ?_⟩
    refine ⟨line ++ [newline], .of_stored ?_ (.inl ⟨line, rfl, hline⟩) ?_ ?_⟩
    · rw [hfill, hstream]
      simp
    · rw [hfill]
      simp
    · rw [hfill]
  · -- the end of the stream comes first
    have hfill := fill_last_line b hinput hline
    have hundisturbed := undisturbed_of_unbroken hinput hline
    refine ⟨⟨fun _ => hundisturbed, fun _ => ⟨_, by rw [hfill]⟩⟩, fun _ => ?_⟩
    refine ⟨input.bytes, .of_stored ?_ (.inr ⟨hline, ?_⟩) ?_ ?_⟩
    · rw [hfill, stream_of_unbroken hinput, stream, List.append_nil]
    · rw [hfill, stream]
    · rw [hfill]
    · rw [hfill]
  · -- a fault comes first
    have hstream : stream (front ++ .failure fault :: tail)
        = front.bytes.map .ok ++ .error fault :: stream tail := by
      rw [stream_append hfront, stream_failure hfault]
    have hdisturbed := not_undisturbed_of_fault hline hstream
    have hfill := fill_broken b hfront hline hfault tail
    refine ⟨⟨fun ⟨more, hmore⟩ => ?_, fun h => absurd h hdisturbed⟩, fun h => absurd h hdisturbed⟩
    rw [hfill] at hmore
    cases hmore

/-- A line that is interrupted, and longer than its buffer has room for by its newline alone; a fault
that stands behind it is not met. -/
theorem fill_conserves_atLimit :
    let b : LineBuffer := ⟨3, [1, 2], 9⟩
    let input : Input := [.chunk [97, 98, 99], .failure .interrupted, .chunk [100, 101, 10, 120],
      .failure .brokenPipe]
    Undisturbed input ∧ ReadLine b input [97, 98, 99, 100, 101, 10] (b.fill input) ∧
      (b.fill input).rest = [.chunk [120], .failure .brokenPipe] ∧
      (b.fill input).buffer = ⟨3, [97, 98, 99, 100, 101], 1⟩ ∧
      (b.fill input).buffer.line = "abc" := by
  intro b input
  have hundisturbed : Undisturbed input := (fill_conserves b input).1.mp ⟨true, by decide⟩
  obtain ⟨line, hread⟩ := (fill_conserves b input).2 hundisturbed
  have hline : line.map Except.ok = [97, 98, 99, 100, 101, 10].map Except.ok :=
    List.append_cancel_right (hread.conserved.symm.trans (by decide))
  obtain rfl := List.map_injective_iff.mpr (fun _ _ => Except.ok.inj) hline
  exact ⟨hundisturbed, hread, by decide, by decide, by decide +kernel⟩

end LineBuffer

end BoardConsole
