import BoardConsole.Proofs.Functions.Hardware
import BoardConsole.Proofs.Storage.Scanning

/-!
# Storage — What lies beyond the macros

A storage is `Marked` where the byte at which its macros end is there and is erased.  The search for
the NULs of an entry goes over all bytes that are left; but the scan does not begin an entry at the
mark, and those in front of it have their NULs in front of it too.

* `sameMacros_of_take`: what is read of the macros of a marked storage depends only on its size and
  on the bytes up to the mark.
* `scripts_may_write_beyond`: so scripts may keep data of their own beyond the mark.
-/

namespace BoardConsole

namespace Storage

/-- The byte where the macros end is there, and is erased. -/
def Marked (s : Storage) : Prop := s.bytes[s.used]? = some erased

/-- All that is read of the macros of one storage is read of another. -/
structure SameMacros (s t : Storage) : Prop where
  entries : t.entries = s.entries
  body?   : ∀ name, t.body? name = s.body? name
  used    : t.used = s.used
  free    : t.free = s.free

section Mark
variable {s t : Storage} {es : List StoredEntry} {rest : List UInt8}

/-- The mark is the first byte that belongs to no entry. -/
theorem Stores.exists_mark (h : s.Stores es rest) (hs : s.Marked) :
    ∃ more, rest = erased :: more := by
  rw [Marked, h.used_eq, h.bytes_eq, List.getElem?_append_right le_rfl, Nat.sub_self] at hs
  cases rest with
  | nil => cases hs
  | cons b more => exact ⟨more, by rw [Option.some.inj hs]⟩

/-- The bytes up to the mark are those of the entries, and the mark. -/
theorem Stores.take_mark {more : List UInt8} (h : s.Stores es (erased :: more)) :
    s.bytes.take (s.used + 1) = storedBytes es ++ [erased] := by
  rw [h.used_eq, h.bytes_eq, List.take_length_add_append]
  rfl

/-- **What is read of the macros depends only on the bytes up to the mark.** -/
theorem sameMacros_of_take (hs : s.Marked) (hsize : t.size = s.size)
    (htake : t.bytes.take (s.used + 1) = s.bytes.take (s.used + 1)) : SameMacros s t := by
  obtain ⟨es, rest, h⟩ := exists_stores s
  obtain ⟨more, rfl⟩ := h.exists_mark hs
  rw [h.take_mark] at htake
  -- the other storage begins with the same entries, and with the mark that ends them
  have ht : t.Stores es (erased :: t.bytes.drop (s.used + 1)) := by
    refine ⟨?_, .inr (.inl rfl)⟩
    calc t.bytes = t.bytes.take (s.used + 1) ++ t.bytes.drop (s.used + 1) :=
          (List.take_append_drop _ _).symm
      _ = storedBytes es ++ erased :: t.bytes.drop (s.used + 1) := by
          rw [htake, List.append_assoc, List.singleton_append]
  have hentries : t.entries = s.entries := by rw [ht.entries_eq, h.entries_eq]
  have hused : t.used = s.used := by rw [ht.used_eq, h.used_eq]
  refine ⟨hentries, fun name => ?_, hused, ?_⟩
  · rw [body?, body?, find?, find?, hentries]
  · rw [free, free, hsize, hused]

end Mark

/-- A write leaves the bytes in front of its address, and the size. -/
theorem take_written {n address : Nat} (h : n ≤ address) (s : Storage) (b : UInt8) :
    (s.written address b).bytes.take n = s.bytes.take n ∧ (s.written address b).size = s.size := by
  rw [written, write]
  split
  · exact ⟨List.take_set_of_le h, List.length_set⟩
  · exact ⟨rfl, rfl⟩

end Storage

/-- A raw write of one byte: by the host, or by a script that calls `eewrite`. -/
inductive RawWrite where
  | byHost (address : Nat) (b : UInt8)
  | byScript (inv : Invocation)

namespace RawWrite
open Storage

def address : RawWrite → Nat
  | .byHost address _ => address
  | .byScript inv     => Hardware.addressOf (inv.numOrZero 1)

def byte : RawWrite → UInt8
  | .byHost _ b   => b
  | .byScript inv => (inv.numOrZero 2).toUInt32.toUInt8

/-- The host after a write, however it ends. -/
def apply (h : Host) : RawWrite → Host
  | .byHost address b =>
    match h.storage.write address b with
    | .ok storage => { h with storage }
    | .error _    => h
  | .byScript inv => endState (Hardware.eewrite inv h)

theorem storage_apply (h : Host) (w : RawWrite) :
    (apply h w).storage = h.storage.written w.address w.byte := by
  cases w with
  | byHost address b =>
      rw [apply, written, RawWrite.address, byte]
      cases h.storage.write address b <;> rfl
  | byScript inv => exact (Hardware.eewrite_acts.storage inv h).trans (if_pos rfl)

/-- Writes from some address on leave the bytes in front of it, and the size. -/
theorem take_applyAll {n : Nat} {writes : List RawWrite} (hw : ∀ w ∈ writes, n ≤ w.address)
    (h : Host) :
    (writes.foldl apply h).storage.bytes.take n = h.storage.bytes.take n ∧
      (writes.foldl apply h).storage.size = h.storage.size := by
  induction writes generalizing h with
  | nil => exact ⟨rfl, rfl⟩
  | cons w writes ih =>
      rw [List.forall_mem_cons] at hw
      obtain ⟨htake, hsize⟩ := ih hw.2 (apply h w)
      obtain ⟨htake', hsize'⟩ := take_written hw.1 h.storage w.byte
      rw [← storage_apply] at htake' hsize'
      exact ⟨htake.trans htake', hsize.trans hsize'⟩

/-- **Scripts may write beyond the macros.**  If the byte where the macros end is there and is erased,
then no writes behind it, in any number and order, change what is read of the macros: their listing,
the body of any name, and the bytes used and free.  In a storage of the same size all of this depends
only on the bytes up to and including that one. -/
theorem scripts_may_write_beyond {h : Host} (hmark : h.storage.Marked) :
    (∀ writes : List RawWrite, (∀ w ∈ writes, h.storage.used < w.address) →
      SameMacros h.storage (writes.foldl apply h).storage) ∧
    ∀ t : Storage, t.size = h.storage.size →
      t.bytes.take (h.storage.used + 1) = h.storage.bytes.take (h.storage.used + 1) →
      SameMacros h.storage t := by
  refine ⟨fun writes hw => ?_, fun t hsize htake => sameMacros_of_take hmark hsize htake⟩
  obtain ⟨htake, hsize⟩ := take_applyAll hw h
  exact sameMacros_of_take hmark hsize htake

/-- A host whose storage holds one macro, its mark and four bytes more. -/
def oneMacro : Host :=
  ⟨.start (.standing .zero), .low 4, ⟨[0x61, 0, 0x62, 0, 0xFF, 0xFF, 0xFF, 0xFF, 0xFF]⟩,
    .toConsole (.fresh .endless), .empty, "", []⟩

/-- An entry byte by byte behind that mark, one of them by a script that hands over 256, and a byte
past the end. -/
def entryBehind : List RawWrite :=
  [.byHost 5 0x63, .byScript ⟨[.num 6, .num 256], id⟩, .byHost 7 0x64, .byHost 8 0, .byHost 9 1]

/-- The entry is there and is not listed. -/
theorem scripts_may_write_beyond_entry :
    oneMacro.storage.Marked ∧ (∀ w ∈ entryBehind, oneMacro.storage.used < w.address) ∧
    SameMacros oneMacro.storage (entryBehind.foldl apply oneMacro).storage ∧
    (entryBehind.foldl apply oneMacro).storage.bytes.drop 5 = encodeEntry "c" "d" := by
  have hused : oneMacro.storage.used = 4 := by decide +kernel
  have hmark : oneMacro.storage.Marked := by
    rw [Marked, hused]
    rfl
  have hbehind : ∀ w ∈ entryBehind, oneMacro.storage.used < w.address := by
    rw [hused]
    decide +kernel
  exact ⟨hmark, hbehind, (scripts_may_write_beyond hmark).1 entryBehind hbehind, by decide +kernel⟩

end RawWrite

end BoardConsole
