import BoardConsole.Proofs.Storage.Packed

/-!
# Storage — Scanning any bytes

Scripts may write any byte anywhere, so the storage need not hold what definitions put there.
Whatever the bytes are, they are entries and a rest that begins with none (`exists_stored`), the
scan reads exactly these entries (`scanFrom_stored`), and the rest begins with no entry because it
is empty, begins with an erased byte or has fewer than two NULs (`splitEntry_eq_none_iff`).

* `define_lists`: a definition that succeeds leaves the other macros and appends its own; after it
  stands whatever the bytes behind it are read as.  Nothing else is listed exactly where these
  bytes begin with no entry, since the mark that ends the macros is not written.
-/

namespace BoardConsole.Storage
open Text

/-- What is stored for a macro, apart from the two NULs: any bytes that are read as one. -/
structure StoredEntry where
  name     : List UInt8
  body     : List UInt8
  name_nul : 0 ∉ name
  body_nul : 0 ∉ body
  begins   : name.head? ≠ some erased

namespace StoredEntry

/-- The bytes of an entry. -/
def bytes (e : StoredEntry) : List UInt8 := e.name ++ 0 :: e.body ++ [0]

/-- The number of its bytes. -/
def size (e : StoredEntry) : Nat := e.name.length + e.body.length + 2

/-- What an entry at an address is read as. -/
def read (e : StoredEntry) (offset : Nat) : MacroEntry :=
  ⟨Utf8.decode e.name, Utf8.decode e.body, offset, e.size⟩

/-- What is stored for a name and a body without a NUL. -/
def ofTexts (name body : String) (h : NulFree name ∧ NulFree body) : StoredEntry where
  name     := Utf8.encode name
  body     := Utf8.encode body
  name_nul := zero_notMem_encode h.1
  body_nul := zero_notMem_encode h.2
  begins   := by
    have hhead := head?_encode_ne_erased name []
    cases hname : Utf8.encode name with
    | nil => simp
    | cons b bs => rwa [hname] at hhead

@[simp] theorem length_read (e : StoredEntry) (offset : Nat) :
    (e.read offset).length = e.size := rfl

theorem length_bytes (e : StoredEntry) : e.bytes.length = e.size := by
  simp only [bytes, size, List.length_append, List.length_cons, List.length_nil]
  omega

end StoredEntry

/-- The bytes of entries one after another. -/
def storedBytes (es : List StoredEntry) : List UInt8 := es.flatMap StoredEntry.bytes

/-- The entries that those bytes are read as, the first of them at an address. -/
def readAll (offset : Nat) : List StoredEntry → List MacroEntry
  | []      => []
  | e :: es => e.read offset :: readAll (offset + e.size) es

theorem storedBytes_cons (e : StoredEntry) (es : List StoredEntry) :
    storedBytes (e :: es) = e.bytes ++ storedBytes es := rfl

theorem storedBytes_append (es fs : List StoredEntry) :
    storedBytes (es ++ fs) = storedBytes es ++ storedBytes fs := List.flatMap_append

/-! ### One entry -/

/-- No entry begins here: there is nothing, or an erased byte, or one of the two NULs is missing. -/
def Ends (bytes : List UInt8) : Prop :=
  bytes = [] ∨ bytes.head? = some erased ∨ bytes.count 0 < 2

theorem splitEntry_stored (e : StoredEntry) (rest : List UInt8) :
    splitEntry (e.bytes ++ rest) = some (e.name, e.body, rest) := by
  have hbytes : e.bytes ++ rest = e.name ++ 0 :: (e.body ++ 0 :: rest) := by
    simp [StoredEntry.bytes]
  have hhead : (e.bytes ++ rest).head? ≠ some erased := by
    have hbegins := e.begins
    cases hname : e.name with
    | nil => simp [StoredEntry.bytes, hname, erased]
    | cons b bs => simpa [StoredEntry.bytes, hname] using hbegins
  rw [splitEntry, if_neg hhead, hbytes, untilNul_append e.name_nul]
  simp only [untilNul_append e.body_nul, Option.map_some]

theorem untilNul_eq_some {bytes field rest : List UInt8} (h : untilNul bytes = some (field, rest)) :
    0 ∉ field ∧ bytes = field ++ 0 :: rest := by
  induction bytes generalizing field with
  | nil => simp [untilNul] at h
  | cons b bytes ih =>
      rw [untilNul] at h
      split at h
      · rename_i hb
        simp only [Option.some.injEq, Prod.mk.injEq] at h
        simp [← h.1, ← h.2, hb]
      · rename_i hb
        obtain ⟨⟨f, r⟩, hf, hr⟩ := Option.map_eq_some_iff.1 h
        simp only [Prod.mk.injEq] at hr
        obtain ⟨hnul, rfl⟩ := ih (hr.2 ▸ hf)
        rw [← hr.1]
        exact ⟨by simp [hnul, Ne.symm hb], rfl⟩

theorem untilNul_eq_none_iff {bytes : List UInt8} : untilNul bytes = none ↔ bytes.count 0 = 0 := by
  induction bytes with
  | nil => simp [untilNul]
  | cons b bytes ih =>
      rw [untilNul]
      split
      next hb => simp [hb]
      next hb => rw [Option.map_eq_none_iff, ih, List.count_cons_of_ne hb]

theorem splitEntry_eq_some {bytes name body rest : List UInt8}
    (h : splitEntry bytes = some (name, body, rest)) :
    ∃ e : StoredEntry, e.name = name ∧ e.body = body ∧ bytes = e.bytes ++ rest := by
  unfold splitEntry at h
  split at h
  · cases h
  rename_i hhead
  split at h
  · cases h
  rename_i n r hn
  obtain ⟨⟨b, r'⟩, hb, hr⟩ := Option.map_eq_some_iff.1 h
  simp only [Prod.mk.injEq] at hr
  obtain ⟨hname, rfl⟩ := untilNul_eq_some hn
  obtain ⟨hbody, rfl⟩ := untilNul_eq_some hb
  have hbegins : n.head? ≠ some erased := by
    cases n with
    | nil => simp
    | cons c cs => simpa using hhead
  exact ⟨⟨n, b, hname, hbody, hbegins⟩, hr.1, hr.2.1, by simp [StoredEntry.bytes, ← hr.2.2]⟩

/-- **Where no entry begins.** -/
theorem splitEntry_eq_none_iff {bytes : List UInt8} : splitEntry bytes = none ↔ Ends bytes := by
  unfold splitEntry Ends
  split
  next hhead => simp [hhead]
  next hhead =>
    cases hn : untilNul bytes with
    | none => simp [untilNul_eq_none_iff.1 hn]
    | some split =>
        obtain ⟨name, rest⟩ := split
        obtain ⟨hname, rfl⟩ := untilNul_eq_some hn
        have hcount : (name ++ 0 :: rest).count 0 = rest.count 0 + 1 := by
          rw [List.count_append, List.count_eq_zero_of_not_mem hname, List.count_cons_self,
            Nat.zero_add]
        rw [or_iff_right (by simp), or_iff_right hhead, hcount]
        simp only [Option.map_eq_none_iff, untilNul_eq_none_iff]
        omega

/-! ### All entries -/

/-- **Any bytes** are entries and a rest that begins with none. -/
theorem exists_stored (bytes : List UInt8) :
    ∃ es rest, bytes = storedBytes es ++ rest ∧ Ends rest := by
  induction hn : bytes.length using Nat.strong_induction_on generalizing bytes with
  | h n ih =>
    cases hsplit : splitEntry bytes with
    | none => exact ⟨[], bytes, rfl, splitEntry_eq_none_iff.1 hsplit⟩
    | some parts =>
        obtain ⟨name, body, rest⟩ := parts
        obtain ⟨e, -, -, rfl⟩ := splitEntry_eq_some hsplit
        have hlength := length_splitEntry hsplit
        obtain ⟨es, last, rfl, hlast⟩ := ih rest.length (by omega) rest rfl
        exact ⟨e :: es, last, by rw [storedBytes_cons, List.append_assoc], hlast⟩

theorem scanFrom_of_ends {bytes : List UInt8} (h : Ends bytes) (offset : Nat) :
    scanFrom offset bytes = ([], offset) :=
  scanFrom_of_none (splitEntry_eq_none_iff.2 h) offset

/-- **The scan reads the entries**, and then goes on with what follows them. -/
theorem scanFrom_stored (es : List StoredEntry) (rest : List UInt8) (offset : Nat) :
    scanFrom offset (storedBytes es ++ rest)
      = (readAll offset es ++ (scanFrom (offset + (storedBytes es).length) rest).1,
        (scanFrom (offset + (storedBytes es).length) rest).2) := by
  induction es generalizing offset with
  | nil => rfl
  | cons e es ih =>
      rw [storedBytes_cons, List.append_assoc, scanFrom_of_some (splitEntry_stored e _)]
      have hsize : e.name.length + e.body.length + 2 = e.size := rfl
      rw [hsize, ih, List.length_append, e.length_bytes, ← Nat.add_assoc]
      rfl

/-- The bytes are these entries and a rest that begins with none. -/
structure Stores (s : Storage) (es : List StoredEntry) (rest : List UInt8) : Prop where
  bytes_eq : s.bytes = storedBytes es ++ rest
  ends     : Ends rest

section Stores
variable {s : Storage} {es : List StoredEntry} {rest : List UInt8}

theorem exists_stores (s : Storage) : ∃ es rest, s.Stores es rest := by
  obtain ⟨es, rest, hbytes, hends⟩ := exists_stored s.bytes
  exact ⟨es, rest, hbytes, hends⟩

theorem Stores.scan_eq (h : s.Stores es rest) :
    scanFrom 0 s.bytes = (readAll 0 es, (storedBytes es).length) := by
  rw [h.bytes_eq, scanFrom_stored, scanFrom_of_ends h.ends, List.append_nil, Nat.zero_add]

theorem Stores.entries_eq (h : s.Stores es rest) : s.entries = readAll 0 es := by
  rw [entries, h.scan_eq]

theorem Stores.used_eq (h : s.Stores es rest) : s.used = (storedBytes es).length := by
  rw [used, h.scan_eq]

theorem Stores.size_eq (h : s.Stores es rest) : s.size = s.used + rest.length := by
  rw [h.used_eq, size, h.bytes_eq, List.length_append]

end Stores

/-! ### Defining over any bytes -/

/-- The name and the body that an entry is read as. -/
def StoredEntry.decoded (e : StoredEntry) : String × String :=
  (Utf8.decode e.name, Utf8.decode e.body)

/-- The macros listed, each as its name and its body. -/
def macros (s : Storage) : MacroList := s.entries.map fun entry => (entry.name, entry.body)

/-- The bytes that stand right behind a macro once it is defined: of those that the old entry frees
and those past all entries, the ones that the macro does not take. -/
def behind (s : Storage) (name body : String) : List UInt8 :=
  (List.replicate (((s.find? name).map (·.length)).getD 0) erased ++ s.bytes.drop s.used).drop
    (encodeEntry name body).length

theorem map_readAll (offset : Nat) (es : List StoredEntry) :
    (readAll offset es).map (fun entry => (entry.name, entry.body))
      = es.map StoredEntry.decoded := by
  induction es generalizing offset with
  | nil => rfl
  | cons e es ih => exact congrArg (List.cons e.decoded) (ih _)

/-- The first entry of a name splits the entries, if there is one. -/
theorem find?_readAll (name : String) (es : List StoredEntry) (offset : Nat) :
    (readAll offset es).find? (·.name == name) = none ∧
        name ∉ (es.map StoredEntry.decoded).map (·.1) ∨
      ∃ pre e post, es = pre ++ e :: post ∧ e.decoded.1 = name ∧
        (readAll offset es).find? (·.name == name)
          = some (e.read (offset + (storedBytes pre).length)) := by
  induction es generalizing offset with
  | nil => exact .inl ⟨rfl, by simp⟩
  | cons e es ih =>
      by_cases he : e.decoded.1 = name
      · refine .inr ⟨[], e, es, rfl, he, ?_⟩
        rw [readAll, List.find?_cons_of_pos]
        · rfl
        · exact beq_iff_eq.2 he
      · have hskip : (readAll offset (e :: es)).find? (·.name == name)
            = (readAll (offset + e.size) es).find? (·.name == name) := by
          rw [readAll, List.find?_cons_of_neg]
          exact fun h => he (beq_iff_eq.1 h)
        rw [hskip]
        rcases ih (offset + e.size) with ⟨hnone, hnot⟩ | ⟨pre, x, post, rfl, hx, hsome⟩
        · refine .inl ⟨hnone, ?_⟩
          rw [List.map_cons, List.map_cons, List.mem_cons, not_or]
          exact ⟨Ne.symm he, hnot⟩
        · refine .inr ⟨e :: pre, x, post, rfl, hx, ?_⟩
          rw [hsome, storedBytes_cons, List.length_append, e.length_bytes, Nat.add_assoc]

section Defining
variable {s t : Storage} {es : List StoredEntry} {rest : List UInt8} {name body : String}

theorem Stores.macros_eq (h : s.Stores es rest) : s.macros = es.map StoredEntry.decoded := by
  rw [macros, h.entries_eq, map_readAll]

theorem Stores.rest_eq (h : s.Stores es rest) : s.bytes.drop s.used = rest := by
  rw [h.bytes_eq, h.used_eq, List.drop_left]

/-- The bytes past all entries are not read, so nothing is listed exactly where none begins. -/
theorem macros_eq_nil_iff (bytes : List UInt8) : macros ⟨bytes⟩ = [] ↔ Ends bytes := by
  obtain ⟨es, rest, h⟩ := exists_stores ⟨bytes⟩
  rw [h.macros_eq, List.map_eq_nil_iff]
  constructor
  · rintro rfl
    have hbytes : bytes = rest := h.bytes_eq
    exact hbytes ▸ h.ends
  · intro hends
    cases es with
    | nil => rfl
    | cons e es =>
        have hbytes : bytes = e.bytes ++ (storedBytes es ++ rest) := by
          rw [← List.append_assoc]
          exact h.bytes_eq
        rw [← splitEntry_eq_none_iff, hbytes, splitEntry_stored] at hends
        cases hends

/-- Entries and then any bytes are listed as the entries and then what those bytes are. -/
theorem macros_stored (es : List StoredEntry) (bytes : List UInt8) :
    macros ⟨storedBytes es ++ bytes⟩ = es.map StoredEntry.decoded ++ macros ⟨bytes⟩ := by
  obtain ⟨more, rest, h⟩ := exists_stores ⟨bytes⟩
  have hall : Stores ⟨storedBytes es ++ bytes⟩ (es ++ more) rest := by
    refine ⟨?_, h.ends⟩
    rw [storedBytes_append, List.append_assoc, ← h.bytes_eq]
  rw [hall.macros_eq, h.macros_eq, List.map_append]

/-- Looking a name up finds its first entry, if there is one. -/
theorem Stores.find?_cases (h : s.Stores es rest) (name : String) :
    s.find? name = none ∧ name ∉ s.macros.map (·.1) ∨
      ∃ pre e post, es = pre ++ e :: post ∧ e.decoded.1 = name ∧
        s.find? name = some (e.read (storedBytes pre).length) := by
  rw [find?, h.entries_eq, h.macros_eq]
  have hcases := find?_readAll name es 0
  simp only [Nat.zero_add] at hcases
  exact hcases

/-- The bytes used are those of the other entries and those of one. -/
theorem Stores.used_split {pre post : List StoredEntry} {e : StoredEntry}
    (h : s.Stores (pre ++ e :: post) rest) :
    s.used = (storedBytes (pre ++ post)).length + e.size := by
  rw [h.used_eq, storedBytes_append, storedBytes_append, storedBytes_cons]
  simp only [List.length_append, e.length_bytes]
  omega

theorem Stores.cut_eq {pre post : List StoredEntry} {e : StoredEntry}
    (h : s.Stores (pre ++ e :: post) rest) :
    (s.cut (e.read (storedBytes pre).length)).bytes
      = storedBytes (pre ++ post) ++ (List.replicate e.size erased ++ rest) := by
  have hsplit :
      storedBytes (pre ++ e :: post) = storedBytes pre ++ e.bytes ++ storedBytes post := by
    rw [storedBytes_append, storedBytes_cons, List.append_assoc]
  have hbytes := h.bytes_eq
  have hused := h.used_eq
  rw [hsplit] at hbytes hused
  rw [cut_of_split (e.read _) hbytes rfl e.length_bytes.symm hused, storedBytes_append,
    e.length_bytes, List.append_assoc]

theorem putEntry_append {a room : List UInt8} {address : Nat} (name body : String)
    (hbytes : s.bytes = a ++ room) (haddress : address = a.length) :
    (s.putEntry address name body).bytes
      = a ++ encodeEntry name body ++ room.drop (encodeEntry name body).length := by
  simp only [putEntry, hbytes, haddress, List.take_left, List.drop_append]
  rw [List.drop_of_length_le (Nat.le_add_right _ _), Nat.add_sub_cancel_left, List.nil_append]

/-- **What a successful definition writes**: the entry of its name is cut, if there is one, and the
new one stands after the others. -/
theorem Stores.define_eq (h : s.Stores es rest) (ht : s.define name body = .ok t) :
    ∃ kept, t.bytes = storedBytes kept ++ encodeEntry name body ++ s.behind name body ∧
      (kept = es ∧ name ∉ s.macros.map (·.1) ∨
        ∃ pre e post, es = pre ++ e :: post ∧ e.decoded.1 = name ∧ kept = pre ++ post) := by
  rw [define] at ht
  split at ht
  · cases ht
  rcases h.find?_cases name with ⟨hnone, hnot⟩ | ⟨pre, e, post, rfl, he, hsome⟩
  · simp only [hnone, Except.ok.injEq] at ht
    refine ⟨es, ?_, .inl ⟨rfl, hnot⟩⟩
    rw [← ht, putEntry_append name body h.bytes_eq h.used_eq, behind, hnone, h.rest_eq]
    rfl
  · simp only [hsome, Except.ok.injEq, StoredEntry.length_read] at ht
    refine ⟨pre ++ post, ?_, .inr ⟨pre, e, post, rfl, he, rfl⟩⟩
    have haddress : s.used - e.size = (storedBytes (pre ++ post)).length := by
      rw [h.used_split, Nat.add_sub_cancel]
    rw [← ht, putEntry_append name body h.cut_eq haddress, behind, hsome, h.rest_eq]
    rfl

/-- **What a successful definition lists**: the other macros, its own, and what the bytes right
behind it are read as.  That is nothing more exactly where no entry begins there. -/
theorem define_lists (hd : (s.macros.map (·.1)).Nodup) (hnul : NulFree name ∧ NulFree body)
    (ht : s.define name body = .ok t) :
    t.macros = s.macros.without name ++ [(name, body)] ++ macros ⟨s.behind name body⟩ ∧
      (t.macros = s.macros.without name ++ [(name, body)] ↔ Ends (s.behind name body)) := by
  obtain ⟨es, rest, h⟩ := exists_stores s
  obtain ⟨kept, hbytes, hkept⟩ := h.define_eq ht
  have hothers : kept.map StoredEntry.decoded = s.macros.without name := by
    rcases hkept with ⟨rfl, hnot⟩ | ⟨pre, e, post, rfl, he, rfl⟩
    · rw [MacroList.without_of_notMem hnot, h.macros_eq]
    · obtain ⟨old, hold⟩ : ∃ old, e.decoded = (name, old) := ⟨e.decoded.2, by rw [← he]⟩
      have hmacros : s.macros
          = pre.map StoredEntry.decoded ++ (name, old) :: post.map StoredEntry.decoded := by
        rw [h.macros_eq, List.map_append, List.map_cons, hold]
      rw [hmacros] at hd
      rw [hmacros, MacroList.without_of_split hd, List.map_append]
  have hown : (StoredEntry.ofTexts name body hnul).decoded = (name, body) := by
    show (Utf8.decode (Utf8.encode name), Utf8.decode (Utf8.encode body)) = _
    rw [Utf8.decode_encode, Utf8.decode_encode]
  have hall :
      t.macros = s.macros.without name ++ [(name, body)] ++ macros ⟨s.behind name body⟩ := by
    have hstored : t.bytes
        = storedBytes (kept ++ [StoredEntry.ofTexts name body hnul]) ++ s.behind name body := by
      rw [hbytes, storedBytes_append, storedBytes_cons]
      simp only [storedBytes, List.flatMap_nil, List.append_nil]
      rfl
    have ht' : t = ⟨storedBytes (kept ++ [StoredEntry.ofTexts name body hnul])
        ++ s.behind name body⟩ := by
      rw [← hstored]
    rw [ht', macros_stored, List.map_append, hothers, List.map_singleton, hown]
  refine ⟨hall, ?_⟩
  rw [hall, ← macros_eq_nil_iff, List.append_right_eq_self]

/-- An entry that ends where a script wrote the bytes of another: that one, which nobody defined,
is listed too. -/
theorem define_lists_stray :
    let s : Storage := ⟨[0xFF, 0xFF, 0xFF, 0xFF, 0x78, 0, 0x31, 0]⟩
    (((((fresh 8).write 4 0x78).bind (·.write 5 0)).bind (·.write 6 0x31)).bind (·.write 7 0)
        = .ok s ∧ s.macros = []) ∧ (NulFree "a" ∧ NulFree "b") ∧
      ∃ t, s.define "a" "b" = .ok t ∧ t.macros = [("a", "b"), ("x", "1")] ∧
        ¬ Ends (s.behind "a" "b") := by
  intro s
  have hmacros : s.macros = [] := by cbv
  have hnul : NulFree "a" ∧ NulFree "b" := by simp [NulFree]
  have hdefine : s.define "a" "b" = .ok ⟨[0x61, 0, 0x62, 0, 0x78, 0, 0x31, 0]⟩ := by cbv
  have hbehind : macros ⟨s.behind "a" "b"⟩ = [("x", "1")] := by cbv
  obtain ⟨hlists, hiff⟩ := define_lists (by rw [hmacros]; exact List.nodup_nil) hnul hdefine
  rw [hmacros, hbehind] at hlists
  refine ⟨⟨by decide, hmacros⟩, hnul, _, hdefine, hlists, ?_⟩
  rw [← hiff, hlists, hmacros]
  decide

end Defining
end BoardConsole.Storage
