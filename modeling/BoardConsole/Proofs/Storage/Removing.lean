import BoardConsole.Proofs.Storage.Scanning

/-!
# Storage — Removing from any bytes

Removing a macro cuts the first entry of its name.  The bytes of the other entries then stand where
they did or further down by the length of that entry, and as many erased bytes fill the gap above
them.  An erased byte begins no entry, so the scan stops at the gap, whatever stands behind it
(`Stores.cut`).

* `remove?_takes_first`: the entries, the bytes used, and every byte after a removal, for any bytes
  before it.
-/

namespace BoardConsole

/-- An entry that many bytes further down. -/
def MacroEntry.down (entry : MacroEntry) (n : Nat) : MacroEntry :=
  { entry with offset := entry.offset - n }

namespace Storage
open Text

/-! ### Entries at their places -/

theorem readAll_append (offset : Nat) (es fs : List StoredEntry) :
    readAll offset (es ++ fs)
      = readAll offset es ++ readAll (offset + (storedBytes es).length) fs := by
  induction es generalizing offset with
  | nil => rfl
  | cons e es ih =>
      rw [List.cons_append, readAll, ih, storedBytes_cons, List.length_append, e.length_bytes,
        Nat.add_assoc]
      rfl

/-- Entries that are read further up are the same entries, further up. -/
theorem map_down_readAll (offset n : Nat) (es : List StoredEntry) :
    (readAll (offset + n) es).map (·.down n) = readAll offset es := by
  induction es generalizing offset with
  | nil => rfl
  | cons e es ih =>
      have hfirst : (e.read (offset + n)).down n = e.read offset := by
        simp only [MacroEntry.down, StoredEntry.read, Nat.add_sub_cancel]
      rw [readAll, List.map_cons, hfirst, Nat.add_right_comm, ih]
      rfl

theorem le_offset_of_mem_readAll {offset : Nat} {es : List StoredEntry} {entry : MacroEntry}
    (h : entry ∈ readAll offset es) : offset ≤ entry.offset := by
  induction es generalizing offset with
  | nil => cases h
  | cons e es ih =>
      rcases List.mem_cons.mp h with rfl | hlater
      · exact Nat.le_refl _
      · exact Nat.le_trans (Nat.le_add_right _ _) (ih hlater)

/-- Where the entries that are read split, the stored ones do. -/
theorem exists_of_readAll_eq_append {offset : Nat} {es : List StoredEntry}
    {before after : List MacroEntry} {entry : MacroEntry}
    (h : readAll offset es = before ++ entry :: after) :
    ∃ pre e post, es = pre ++ e :: post ∧ before = readAll offset pre ∧
      entry = e.read (offset + (storedBytes pre).length) ∧
      after = readAll (offset + (storedBytes pre).length + e.size) post := by
  induction before generalizing offset es with
  | nil =>
      cases es with
      | nil => cases h
      | cons e es =>
          obtain ⟨rfl, rfl⟩ := List.cons.inj h
          exact ⟨[], e, es, rfl, rfl, rfl, rfl⟩
  | cons first before ih =>
      cases es with
      | nil => cases h
      | cons e es =>
          obtain ⟨rfl, hrest⟩ := List.cons.inj h
          obtain ⟨pre, x, post, rfl, rfl, rfl, rfl⟩ := ih hrest
          refine ⟨e :: pre, x, post, rfl, rfl, ?_, ?_⟩ <;>
            rw [storedBytes_cons, List.length_append, e.length_bytes, ← Nat.add_assoc]

/-! ### One entry less -/

section Removing
variable {s t : Storage} {pre post : List StoredEntry} {e : StoredEntry} {rest : List UInt8}

/-- A gap of erased bytes ends the entries. -/
theorem ends_gap (e : StoredEntry) (rest : List UInt8) :
    Ends (List.replicate e.size erased ++ rest) := by
  refine .inr (.inl ?_)
  rw [StoredEntry.size, List.replicate_succ]
  rfl

/-- **Cutting an entry leaves the others**, and the gap above them. -/
theorem Stores.cut (h : s.Stores (pre ++ e :: post) rest) :
    (s.cut (e.read (storedBytes pre).length)).Stores (pre ++ post)
      (List.replicate e.size erased ++ rest) :=
  ⟨h.cut_eq, ends_gap e rest⟩

/-- The bytes that a cut changes are those from the entry on up to the end of all entries, and the
last of them are erased. -/
theorem Stores.getElem?_cut (h : s.Stores (pre ++ e :: post) rest)
    (ht : t.Stores (pre ++ post) (List.replicate e.size erased ++ rest)) (i : Nat) :
    (i < (storedBytes pre).length → t.bytes[i]? = s.bytes[i]?) ∧
      (t.used ≤ i → i < s.used → t.bytes[i]? = some erased) ∧
      (s.used ≤ i → t.bytes[i]? = s.bytes[i]?) := by
  have hused : s.used = t.used + e.size := by rw [h.used_split, ht.used_eq]
  refine ⟨fun hi => ?_, fun hlow hhigh => ?_, fun hi => ?_⟩
  · rw [h.bytes_eq, ht.bytes_eq, storedBytes_append, storedBytes_append, List.append_assoc,
      List.append_assoc, List.getElem?_append_left hi, List.getElem?_append_left hi]
  · rw [ht.used_eq] at hlow hused
    have hgap : i - (storedBytes (pre ++ post)).length < (List.replicate e.size erased).length := by
      rw [List.length_replicate]
      omega
    rw [ht.bytes_eq, List.getElem?_append_right hlow, List.getElem?_append_left hgap,
      List.getElem?_replicate_of_lt (by omega)]
  · have hlow : (storedBytes (pre ++ post) ++ List.replicate e.size erased).length ≤ i := by
      rw [List.length_append, List.length_replicate, ← ht.used_eq]
      omega
    have hend : (storedBytes (pre ++ e :: post)).length ≤ i := by rwa [← h.used_eq]
    have hsame : (storedBytes (pre ++ post) ++ List.replicate e.size erased).length
        = (storedBytes (pre ++ e :: post)).length := by
      rw [List.length_append, List.length_replicate, ← ht.used_eq, ← h.used_eq, hused]
    rw [h.bytes_eq, ht.bytes_eq, ← List.append_assoc, List.getElem?_append_right hlow,
      List.getElem?_append_right hend, hsame]

/-- **A removal takes out the first entry of the name, and no other**, whatever the bytes are.  The
later entries move down by its length, which is what fewer bytes are used; the bytes that become
free are erased; and the bytes before the entry and past the old end of all entries are as they
were. -/
theorem remove?_takes_first {name : String} (h : s.remove? name = some t) :
    ∃ before entry after,
      (s.entries = before ++ entry :: after ∧ entry.name = name ∧
        ∀ other ∈ before, other.name ≠ name) ∧
      (t.entries = before ++ after.map (·.down entry.length) ∧
        ∀ later ∈ after, entry.length ≤ later.offset) ∧
      t.used + entry.length = s.used ∧
      (∀ i, t.used ≤ i → i < s.used → t.bytes[i]? = some erased) ∧
      (∀ i, s.used ≤ i → t.bytes[i]? = s.bytes[i]?) ∧
      ∀ i < entry.offset, t.bytes[i]? = s.bytes[i]? := by
  obtain ⟨entry, hfind, rfl⟩ := Option.map_eq_some_iff.mp h
  obtain ⟨es, rest, hs⟩ := exists_stores s
  rw [find?, List.find?_eq_some_iff_append] at hfind
  obtain ⟨hname, before, after, hentries, hbefore⟩ := hfind
  have hread := hentries
  rw [hs.entries_eq] at hread
  obtain ⟨pre, e, post, rfl, hpre, hentry, hpost⟩ := exists_of_readAll_eq_append hread
  rw [Nat.zero_add] at hentry hpost
  have ht := hs.cut
  rw [← hentry] at ht
  have hlength : entry.length = e.size := by rw [hentry, StoredEntry.length_read]
  have hused : (s.cut entry).used + e.size = s.used := by rw [hs.used_split, ht.used_eq]
  refine ⟨before, entry, after, ⟨hentries, beq_iff_eq.mp hname, fun other hother => ?_⟩,
    ⟨?_, fun later hlater => ?_⟩, ?_, fun i => (hs.getElem?_cut ht i).2.1,
    fun i => (hs.getElem?_cut ht i).2.2, fun i hi => (hs.getElem?_cut ht i).1 ?_⟩
  · simpa using hbefore other hother
  · rw [ht.entries_eq, readAll_append, hpre, hpost, hlength, Nat.zero_add, map_down_readAll]
  · rw [hpost] at hlater
    rw [hlength]
    exact Nat.le_trans (Nat.le_add_left _ _) (le_offset_of_mem_readAll hlater)
  · rw [hlength, hused]
  · rwa [hentry] at hi

/-- Two entries whose names are different bytes but read alike, and bytes behind them that are no
entry: the first one goes, the second moves down, and the rest is not read. -/
theorem remove?_takes_first_alike :
    let s : Storage := ⟨[0x80, 0, 0x31, 0, 0x81, 0, 0x32, 0x33, 0, 0x78, 0]⟩
    let t : Storage := ⟨[0x81, 0, 0x32, 0x33, 0, 0xFF, 0xFF, 0xFF, 0xFF, 0x78, 0]⟩
    s.remove? "\uFFFD" = some t ∧
      s.entries = [⟨"\uFFFD", "1", 0, 4⟩, ⟨"\uFFFD", "23", 4, 5⟩] ∧
      t.entries = [⟨"\uFFFD", "23", 0, 5⟩] ∧ t.used + 4 = s.used := by
  intro s t
  have hremove : s.remove? "\uFFFD" = some t := by cbv
  have hentries : s.entries = [⟨"\uFFFD", "1", 0, 4⟩, ⟨"\uFFFD", "23", 4, 5⟩] := by cbv
  obtain ⟨before, entry, after, ⟨hsplit, -, hbefore⟩, ⟨hleft, -⟩, hused, -⟩ :=
    remove?_takes_first hremove
  rw [hentries] at hsplit
  cases before with
  | cons first before =>
      obtain ⟨rfl, -⟩ := List.cons.inj hsplit
      exact absurd rfl (hbefore _ List.mem_cons_self)
  | nil =>
      obtain ⟨rfl, rfl⟩ := List.cons.inj hsplit
      exact ⟨hremove, hentries, hleft, hused⟩

end Removing
end Storage

end BoardConsole
