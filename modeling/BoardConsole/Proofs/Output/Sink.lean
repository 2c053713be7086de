import BoardConsole.Output.Sink
import Mathlib.Data.List.Basic

/-!
# Output — What a sink has accepted

A byte that a sink has accepted is with its device or held back (`contents`).  Of some bytes a sink
accepts a first part, which is all of them exactly where `writeAll` answers no fault
(`exists_accepted`).  Passing on, flushing and closing change nothing in what was accepted, and
where a sink is closed without a fault all of it is with the device (`bytes_close`).  So several
writes and the closing go without a fault exactly where everything is accepted and flushed, and then
the device has it all (`verdict_eq_none_iff`, `received_of_completes`).  Closing is never without a
trace (`events_lt_close`), so a sink that was closed is not as it was before.
-/

namespace BoardConsole.Sink

/-- The bytes accepted so far: those that the device took, and those held back. -/
def contents (s : Sink) : List UInt8 := s.bytes ++ s.held

theorem contents_hold (s : Sink) (bytes : List UInt8) :
    (s.hold bytes).contents = s.contents ++ bytes :=
  (List.append_assoc s.bytes s.held bytes).symm

/-- The sink after some more writes. -/
def after (s : Sink) (chunks : List (List UInt8)) : Sink :=
  chunks.foldl (fun s chunk => (s.writeAll chunk).2) s

/-- What goes wrong in some more writes, in order. -/
def faults (s : Sink) : List (List UInt8) → List WriteFault
  | []              => []
  | chunk :: chunks => (s.writeAll chunk).1.toList ++ (s.writeAll chunk).2.faults chunks

/-- Some more writes are accepted, each of them in full. -/
def AcceptsAll (s : Sink) : List (List UInt8) → Prop
  | []              => True
  | chunk :: chunks =>
    (s.writeAll chunk).2.contents = s.contents ++ chunk ∧ (s.writeAll chunk).2.AcceptsAll chunks

/-! ### The device -/

theorem bytes_write_took {s t : Sink} {offered : List UInt8} {n : Nat}
    (h : s.write offered = (.took n, t)) : t.bytes = s.bytes ++ offered.take n := by
  obtain ⟨hreply, rfl⟩ := Prod.mk.inj h
  simp only [bytes] at hreply ⊢
  rw [hreply]
  simp [List.reverseAux_eq]

theorem bytes_write_failed {s t : Sink} {offered : List UInt8} {fault : WriteFault}
    (h : s.write offered = (.failed fault, t)) : t.bytes = s.bytes := by
  obtain ⟨hreply, rfl⟩ := Prod.mk.inj h
  simp only [bytes] at hreply ⊢
  rw [hreply]
  rfl

/-- Of the bytes delivered the device takes a first part, and the rest is left. -/
theorem exists_delivered (s : Sink) (bytes : List UInt8) :
    ∃ taken, (s.deliver bytes).2.2.bytes = s.bytes ++ taken ∧
      taken ++ (s.deliver bytes).2.1 = bytes := by
  fun_induction deliver s bytes with
  | case1 s => exact ⟨[], (List.append_nil _).symm, rfl⟩
  | case2 s b rest fault t hwrite =>
      exact ⟨[], by rw [bytes_write_failed hwrite, List.append_nil], rfl⟩
  | case3 s b rest t hwrite => exact ⟨[], by rw [bytes_write_took hwrite, List.take_zero], rfl⟩
  | case4 s b rest n t hwrite ih =>
      obtain ⟨taken, hbytes, hleft⟩ := ih
      refine ⟨b :: rest.take n ++ taken, ?_, ?_⟩
      · rw [hbytes, bytes_write_took hwrite, List.take_succ_cons, List.append_assoc]
      · rw [List.append_assoc, hleft, List.cons_append, List.take_append_drop]

theorem deliver_eq_none_iff (s : Sink) (bytes : List UInt8) :
    (s.deliver bytes).1 = none ↔ (s.deliver bytes).2.1 = [] := by
  fun_induction deliver s bytes with
  | case1 s => simp
  | case2 s b rest fault t hwrite => simp
  | case3 s b rest t hwrite => simp
  | case4 s b rest n t hwrite ih => exact ih

/-- Delivering holds nothing back and flushes nothing, and it makes a call where there is a byte. -/
theorem deliver_frame (s : Sink) (bytes : List UInt8) :
    (s.deliver bytes).2.2.held = s.held ∧ (s.deliver bytes).2.2.room = s.room ∧
      (s.deliver bytes).2.2.flushes = s.flushes ∧ s.calls ≤ (s.deliver bytes).2.2.calls ∧
      (bytes ≠ [] → s.calls < (s.deliver bytes).2.2.calls) := by
  fun_induction deliver s bytes with
  | case1 s => simp
  | case2 s b rest fault t hwrite | case3 s b rest t hwrite =>
      obtain ⟨-, rfl⟩ := Prod.mk.inj hwrite
      simp
  | case4 s b rest n t hwrite ih =>
      obtain ⟨hheld, hroom, hflushes, hcalls, -⟩ := ih
      obtain ⟨-, rfl⟩ := Prod.mk.inj hwrite
      have hcall := Nat.lt_of_lt_of_le (Nat.lt_succ_self s.calls) hcalls
      exact ⟨hheld, hroom, hflushes, Nat.le_of_lt hcall, fun _ => hcall⟩

/-! ### The buffer -/

theorem contents_passOn (s : Sink) : s.passOn.2.contents = s.contents := by
  obtain ⟨taken, hbytes, hleft⟩ := exists_delivered s s.held
  show (s.deliver s.held).2.2.bytes ++ (s.deliver s.held).2.1 = s.bytes ++ s.held
  rw [hbytes, List.append_assoc, hleft]

theorem passOn_eq_none_iff (s : Sink) : s.passOn.1 = none ↔ s.passOn.2.held = [] :=
  deliver_eq_none_iff s s.held

theorem bytes_of_passOn {s t : Sink} (h : s.passOn = (none, t)) :
    t.held = [] ∧ t.bytes = s.contents := by
  have hheld : t.held = [] := by
    have := (passOn_eq_none_iff s).mp (congrArg Prod.fst h)
    rwa [h] at this
  refine ⟨hheld, ?_⟩
  have hcontents := contents_passOn s
  rwa [h, contents, hheld, List.append_nil] at hcontents

theorem passOn_of_held {s : Sink} (h : s.held = []) : s.passOn = (none, s) := by
  rw [passOn, h, deliver]
  cases s
  cases h
  rfl

/-- Of the bytes that are held back or go past the buffer when it is empty, a first part is
accepted. -/
theorem exists_takenIn {s : Sink} {bytes : List UInt8}
    (h : s.held = [] ∨ bytes = [] ∨ bytes.length < s.room) :
    ∃ accepted left, accepted ++ left = bytes ∧
      (s.takeIn bytes).2.contents = s.contents ++ accepted ∧
      ((s.takeIn bytes).1 = none ↔ left = []) := by
  unfold takeIn
  split_ifs with hfits
  · exact ⟨bytes, [], List.append_nil _, contents_hold s bytes, by simp⟩
  · obtain ⟨taken, hbytes, hleft⟩ := exists_delivered s bytes
    refine ⟨taken, _, hleft, ?_, deliver_eq_none_iff s bytes⟩
    show (s.deliver bytes).2.2.bytes ++ (s.deliver bytes).2.2.held = s.bytes ++ s.held ++ taken
    rw [hbytes, (deliver_frame s bytes).1]
    rcases h with hheld | rfl | hroom
    · rw [hheld, List.append_nil, List.append_nil]
    · rw [(List.append_eq_nil_iff.mp hleft).1, List.append_nil, List.append_nil]
    · exact absurd hroom hfits

/-- Of the bytes given to a sink it accepts a first part, which is all of them exactly where there
is no fault. -/
theorem exists_accepted (s : Sink) (bytes : List UInt8) :
    ∃ accepted left, accepted ++ left = bytes ∧
      (s.writeAll bytes).2.contents = s.contents ++ accepted ∧
      ((s.writeAll bytes).1 = none ↔ left = []) := by
  unfold writeAll
  split_ifs with hroom hover
  · exact ⟨bytes, [], List.append_nil _, contents_hold s bytes, by simp⟩
  · have hcontents := contents_passOn s
    cases hpass : s.passOn with
    | mk fault t =>
      rw [hpass] at hcontents
      cases fault with
      | some fault =>
          refine ⟨[], bytes, rfl, hcontents.trans (List.append_nil _).symm, by simp, fun h => ?_⟩
          simp [h] at hover
      | none =>
          rw [← hcontents]
          exact exists_takenIn (.inl (bytes_of_passOn hpass).1)
  · -- What fits exactly where the buffer is not empty is less than the whole room.
    refine exists_takenIn ?_
    rw [spare] at hover
    by_cases hheld : s.held = []
    · exact .inl hheld
    · have hlen := List.length_pos_iff.mpr hheld
      by_cases hbytes : bytes = []
      · exact .inr (.inl hbytes)
      · have := List.length_pos_iff.mpr hbytes
        exact .inr (.inr (by omega))

theorem accepts_iff (s : Sink) (bytes : List UInt8) :
    (s.writeAll bytes).2.contents = s.contents ++ bytes ↔ (s.writeAll bytes).1 = none := by
  obtain ⟨accepted, left, rfl, hcontents, hfault⟩ := exists_accepted s bytes
  rw [hcontents, hfault, List.append_cancel_left_eq, List.self_eq_append_right]

/-! ### Several writes -/

theorem acceptsAll_iff (s : Sink) (chunks : List (List UInt8)) :
    s.AcceptsAll chunks ↔ s.faults chunks = [] := by
  induction chunks generalizing s with
  | nil => simp [AcceptsAll, faults]
  | cons chunk chunks ih => simp [AcceptsAll, faults, accepts_iff, ih]

theorem contents_after {s : Sink} {chunks : List (List UInt8)} (h : s.AcceptsAll chunks) :
    (s.after chunks).contents = s.contents ++ chunks.flatten := by
  induction chunks generalizing s with
  | nil => exact (List.append_nil _).symm
  | cons chunk chunks ih =>
      rw [List.flatten_cons, ← List.append_assoc, ← h.1]
      exact ih h.2

/-! ### Flushing and closing -/

theorem close_fst (s : Sink) : s.close.1 = s.flush.1 := rfl

/-- A sink that holds nothing back is flushed once as it is closed, and nothing else is done. -/
theorem close_of_held {s : Sink} (h : s.held = []) :
    s.close = (s.device.flush s.flushes, { s with flushes := s.flushes + 1 }) := by
  have hflush : s.flush = (s.device.flush s.flushes, { s with flushes := s.flushes + 1 }) := by
    simp only [flush, passOn_of_held h]
  simp only [close, hflush]
  rw [passOn_of_held (by exact h)]

/-- The sink has no buffer, and holds nothing back. -/
structure Unbuffered (s : Sink) : Prop where
  room : s.room = 0
  held : s.held = []

/-- Without a buffer, writing delivers. -/
theorem Unbuffered.writeAll_eq {s : Sink} (h : s.Unbuffered) (bytes : List UInt8) :
    s.writeAll bytes = ((s.deliver bytes).1, (s.deliver bytes).2.2) := by
  have hspare : s.spare = 0 := by rw [spare, h.room, Nat.zero_sub]
  have hpass : (if s.spare < bytes.length then s.passOn else (none, s)) = (none, s) := by
    rw [passOn_of_held h.held, ite_self]
  rw [writeAll, hpass, hspare, if_neg (Nat.not_lt_zero _)]
  simp only [takeIn, h.room, Nat.not_lt_zero, if_false]

/-- Without a buffer, writing flushes nothing. -/
theorem Unbuffered.writeAll {s : Sink} (h : s.Unbuffered) (bytes : List UInt8) :
    (s.writeAll bytes).2.Unbuffered ∧ (s.writeAll bytes).2.flushes = s.flushes := by
  obtain ⟨hheld, hroom, hflushes, -⟩ := deliver_frame s bytes
  rw [h.writeAll_eq]
  exact ⟨⟨hroom.trans h.room, hheld.trans h.held⟩, hflushes⟩

/-- Without a buffer, closing flushes once. -/
theorem Unbuffered.close {s : Sink} (h : s.Unbuffered) :
    s.close.2.Unbuffered ∧ s.close.2.flushes = s.flushes + 1 := by
  rw [close_of_held h.held]
  exact ⟨⟨h.room, h.held⟩, rfl⟩

/-- Where a sink is closed without a fault, its device has all that was accepted. -/
theorem bytes_close {s : Sink} (h : s.close.1 = none) : s.close.2.bytes = s.contents := by
  rw [close_fst] at h
  cases hpass : s.passOn with
  | mk fault t =>
    cases fault with
    | some fault => simp [flush, hpass] at h
    | none =>
        obtain ⟨hheld, hbytes⟩ := bytes_of_passOn hpass
        have hflush : s.flush.2 = { t with flushes := t.flushes + 1 } := by simp [flush, hpass]
        show s.flush.2.passOn.2.bytes = s.contents
        rw [hflush, passOn_of_held (by exact hheld)]
        exact hbytes

/-- Some more writes are all accepted in full, and the flush after them succeeds. -/
def Completes (s : Sink) (chunks : List (List UInt8)) : Prop :=
  s.AcceptsAll chunks ∧ (s.after chunks).flush.1 = none

/-- What goes wrong first in some more writes and the closing after them. -/
def verdict (s : Sink) (chunks : List (List UInt8)) : Option WriteFault :=
  (s.faults chunks).head?.or (s.after chunks).close.1

/-- What the device has after some more writes and the closing. -/
def received (s : Sink) (chunks : List (List UInt8)) : List UInt8 := (s.after chunks).close.2.bytes

/-- **Nothing goes wrong exactly where all of it succeeds.** -/
theorem verdict_eq_none_iff (s : Sink) (chunks : List (List UInt8)) :
    s.verdict chunks = none ↔ s.Completes chunks := by
  rw [verdict, Option.or_eq_none_iff, List.head?_eq_none_iff, ← acceptsAll_iff, close_fst,
    Completes]

/-- **What was completed is with the device.** -/
theorem received_of_completes {s : Sink} {chunks : List (List UInt8)} (h : s.Completes chunks) :
    s.received chunks = s.contents ++ chunks.flatten :=
  (bytes_close h.2).trans (contents_after h.1)

/-! ### A device that takes everything -/

theorem deliver_endless {s : Sink} (h : s.device = .endless) (bytes : List UInt8) :
    (s.deliver bytes).1 = none ∧ (s.deliver bytes).2.2.device = .endless := by
  fun_induction deliver s bytes with
  | case1 s => exact ⟨rfl, h⟩
  | case2 s b rest fault t hwrite | case3 s b rest t hwrite =>
      have hreply := congrArg Prod.fst hwrite
      simp [write, h, Device.endless] at hreply
  | case4 s b rest n t hwrite ih =>
      obtain ⟨-, rfl⟩ := Prod.mk.inj hwrite
      exact ih h

theorem passOn_endless {s : Sink} (h : s.device = .endless) :
    ∃ t, s.passOn = (none, t) ∧ t.device = .endless :=
  ⟨s.passOn.2, Prod.ext (deliver_endless h s.held).1 rfl, (deliver_endless h s.held).2⟩

theorem takeIn_endless {s : Sink} (h : s.device = .endless) (bytes : List UInt8) :
    (s.takeIn bytes).1 = none ∧ (s.takeIn bytes).2.device = .endless := by
  unfold takeIn
  split_ifs
  · exact ⟨rfl, h⟩
  · exact deliver_endless h bytes

theorem writeAll_endless {s : Sink} (h : s.device = .endless) (bytes : List UInt8) :
    (s.writeAll bytes).1 = none ∧ (s.writeAll bytes).2.device = .endless := by
  unfold writeAll
  split_ifs
  · exact ⟨rfl, h⟩
  · obtain ⟨t, hpass, hdevice⟩ := passOn_endless h
    rw [hpass]
    exact takeIn_endless hdevice bytes
  · exact takeIn_endless h bytes

theorem completes_endless {s : Sink} (h : s.device = .endless) (chunks : List (List UInt8)) :
    s.Completes chunks := by
  induction chunks generalizing s with
  | nil =>
      obtain ⟨t, hpass, hdevice⟩ := passOn_endless h
      refine ⟨trivial, ?_⟩
      rw [after, List.foldl_nil, flush, hpass]
      simp [hdevice, Device.endless]
  | cons chunk chunks ih =>
      obtain ⟨hfault, hdevice⟩ := writeAll_endless h chunk
      obtain ⟨haccepts, hflush⟩ := ih hdevice
      exact ⟨⟨(accepts_iff s chunk).mpr hfault, haccepts⟩, hflush⟩

/-! ### Closing leaves a trace -/

/-- The calls and flushes of a sink so far. -/
def events (s : Sink) : Nat := s.calls + s.flushes

theorem events_passOn (s : Sink) :
    s.events ≤ s.passOn.2.events ∧ (s.passOn.1 ≠ none → s.events < s.passOn.2.events) := by
  obtain ⟨-, -, hflushes, hcalls, hcall⟩ := deliver_frame s s.held
  have hpass : s.passOn.2.events
      = (s.deliver s.held).2.2.calls + (s.deliver s.held).2.2.flushes := rfl
  rw [hpass, hflushes, events]
  refine ⟨by omega, fun hfault => ?_⟩
  have hheld : s.held ≠ [] := by
    intro hheld
    rw [passOn_of_held hheld] at hfault
    exact hfault rfl
  have := hcall hheld
  omega

/-- Closing a sink leaves a trace: a flush, or a write that failed. -/
theorem events_lt_close (s : Sink) : s.events < s.close.2.events := by
  refine Nat.lt_of_lt_of_le ?_ (events_passOn s.flush.2).1
  obtain ⟨hle, hlt⟩ := events_passOn s
  unfold flush
  cases hpass : s.passOn with
  | mk fault t =>
    rw [hpass] at hle hlt
    cases fault with
    | some fault => exact hlt (by simp)
    | none =>
        have hflush : Sink.events { t with flushes := t.flushes + 1 } = t.events + 1 := rfl
        dsimp only at hle ⊢
        omega

theorem close_ne (s : Sink) : s.close.2 ≠ s := fun h =>
  absurd (events_lt_close s) (by rw [h]; exact Nat.lt_irrefl _)

end BoardConsole.Sink
