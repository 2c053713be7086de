import BoardConsole.Proofs.Text.Utf8
import BoardConsole.Storage.Entries

/-!
# Storage — Packed macros

A storage *holds* an ordered list of macros (`Holds`) when its bytes are those of the macros one
after another and nothing but erased bytes after them, the names being distinct and no text
holding a NUL.  Such a storage is read as that list (`entries_of_holds`, `body?_of_holds`,
`used_of_holds`), and each operation takes it to the storage that holds the list changed in the
same way (`Holds.define`, `Holds.remove`, `holds_eraseAll`).

The reader stops where it should because no text begins with an erased byte, and it splits where
it should because no text holds a NUL.
-/

namespace BoardConsole
open Text

/-- Names and bodies, the macro that was defined last at the end. -/
abbrev MacroList := List (String × String)

namespace MacroList

/-- The macros one after another, each as its name, a NUL, its body and a NUL. -/
def encode (m : MacroList) : List UInt8 :=
  m.flatMap fun p => Utf8.encode p.1 ++ [0] ++ Utf8.encode p.2 ++ [0]

/-- The bytes that one macro takes. -/
def entrySize (p : String × String) : Nat := Utf8.size p.1 + Utf8.size p.2 + 2

/-- The bytes that the macros take. -/
def size (m : MacroList) : Nat := (m.map entrySize).sum

/-- The macros with the one of a name left out. -/
def without (m : MacroList) (name : String) : MacroList := m.filter (·.1 != name)

/-- The macros as entries, the first of them at an address. -/
def layout (offset : Nat) : MacroList → List MacroEntry
  | []     => []
  | p :: m => ⟨p.1, p.2, offset, entrySize p⟩ :: layout (offset + entrySize p) m

theorem encode_nil : encode [] = [] := rfl

theorem encode_append (m₁ m₂ : MacroList) : encode (m₁ ++ m₂) = encode m₁ ++ encode m₂ :=
  List.flatMap_append

theorem encode_cons (p : String × String) (m : MacroList) :
    encode (p :: m) = Storage.encodeEntry p.1 p.2 ++ encode m := by
  simp [encode, Storage.encodeEntry]

theorem size_append (m₁ m₂ : MacroList) : size (m₁ ++ m₂) = size m₁ + size m₂ := by
  simp [size]

theorem size_cons (p : String × String) (m : MacroList) : size (p :: m) = entrySize p + size m := by
  simp [size]

theorem size_nil : size [] = 0 := rfl

theorem length_encodeEntry (p : String × String) :
    (Storage.encodeEntry p.1 p.2).length = entrySize p := by
  simp only [Storage.encodeEntry, entrySize, Utf8.size, List.length_append, List.length_cons,
    List.length_nil]
  omega

theorem length_encode (m : MacroList) : (encode m).length = size m := by
  induction m with
  | nil => rfl
  | cons p m ih => rw [encode_cons, List.length_append, length_encodeEntry, ih, size_cons]

theorem layout_append (offset : Nat) (m₁ m₂ : MacroList) :
    layout offset (m₁ ++ m₂) = layout offset m₁ ++ layout (offset + size m₁) m₂ := by
  induction m₁ generalizing offset with
  | nil => rfl
  | cons p m ih => rw [List.cons_append, layout, ih, layout, size_cons, Nat.add_assoc]; rfl

theorem map_layout (m : MacroList) (offset : Nat) :
    (m.layout offset).map (fun entry => (entry.name, entry.body)) = m := by
  induction m generalizing offset with
  | nil => rfl
  | cons p m ih => exact congrArg (List.cons p) (ih _)

/-- A name that no macro has leaves nothing out. -/
theorem without_of_notMem {m : MacroList} {name : String} (h : name ∉ m.map (·.1)) :
    m.without name = m := by
  refine List.filter_eq_self.2 fun p hp => ?_
  rw [bne_iff_ne]
  exact fun e => h (e ▸ List.mem_map_of_mem hp)

theorem size_without_le (m : MacroList) (name : String) : (m.without name).size ≤ m.size := by
  induction m with
  | nil => exact Nat.le_refl _
  | cons p m ih =>
      simp only [without, List.filter_cons] at ih ⊢
      split <;> simp only [size_cons] <;> omega

/-- Where names are distinct, leaving a name out takes away one macro. -/
theorem without_of_split {pre post : MacroList} {name body : String}
    (hd : ((pre ++ (name, body) :: post).map (·.1)).Nodup) :
    (pre ++ (name, body) :: post).without name = pre ++ post := by
  rw [List.map_append, List.map_cons, List.nodup_middle, List.nodup_cons, List.mem_append,
    not_or] at hd
  rw [without, List.filter_append, List.filter_cons, if_neg (by simp)]
  exact congrArg₂ _ (without_of_notMem hd.1.1) (without_of_notMem hd.1.2)

theorem layout_find?_of_notMem {m : MacroList} {name : String} (h : name ∉ m.map (·.1))
    (offset : Nat) : (layout offset m).find? (·.name == name) = none := by
  induction m generalizing offset with
  | nil => rfl
  | cons p m ih =>
      rw [List.map_cons, List.mem_cons, not_or] at h
      rw [layout, List.find?_cons_of_neg, ih h.2]
      simpa using Ne.symm h.1

theorem layout_find?_of_split {pre post : MacroList} {name body : String}
    (h : name ∉ pre.map (·.1)) (offset : Nat) :
    (layout offset (pre ++ (name, body) :: post)).find? (·.name == name)
      = some ⟨name, body, offset + size pre, entrySize (name, body)⟩ := by
  rw [layout_append, List.find?_append, layout_find?_of_notMem h, Option.none_or, layout,
    List.find?_cons_of_pos]
  simp

/-- A name that a macro has splits the macros there. -/
theorem exists_split {m : MacroList} {name : String} (h : name ∈ m.map (·.1)) :
    ∃ pre body post, m = pre ++ (name, body) :: post ∧ name ∉ pre.map (·.1) := by
  induction m with
  | nil => simp at h
  | cons p m ih =>
      by_cases e : p.1 = name
      · exact ⟨[], p.2, m, by rw [← e]; rfl, by simp⟩
      · rw [List.map_cons, List.mem_cons] at h
        obtain ⟨pre, body, post, rfl, hpre⟩ := ih (h.resolve_left (Ne.symm e))
        refine ⟨p :: pre, body, post, rfl, ?_⟩
        rw [List.map_cons, List.mem_cons, not_or]
        exact ⟨Ne.symm e, hpre⟩

theorem lookup_of_notMem {m : MacroList} {name : String} (h : name ∉ m.map (·.1)) :
    m.lookup name = none := by
  rw [List.lookup_eq_none_iff]
  intro p hp
  rw [bne_iff_ne]
  exact fun e => h (e ▸ List.mem_map_of_mem hp)

theorem lookup_of_split {pre post : MacroList} {name body : String} (h : name ∉ pre.map (·.1)) :
    (pre ++ (name, body) :: post).lookup name = some body := by
  rw [List.lookup_append, lookup_of_notMem h, Option.none_or, List.lookup_cons_self]

end MacroList

namespace Storage
open MacroList

/-! ### Reading packed bytes -/

/-- A text without a NUL. -/
def NulFree (text : String) : Prop := '\x00' ∉ text.toList

instance (text : String) : Decidable (NulFree text) := inferInstanceAs (Decidable ('\x00' ∉ _))

theorem zero_notMem_encode {text : String} (h : NulFree text) : (0 : UInt8) ∉ Utf8.encode text :=
  fun hm => h ((Utf8.ofNat_mem_encode (c := '\x00') (by decide) text).1 hm)

theorem untilNul_append {field : List UInt8} (h : 0 ∉ field) (rest : List UInt8) :
    untilNul (field ++ 0 :: rest) = some (field, rest) := by
  induction field with
  | nil => rfl
  | cons b field ih =>
      rw [List.mem_cons, not_or] at h
      rw [List.cons_append, untilNul, if_neg (Ne.symm h.1), ih h.2]
      rfl

/-- Neither a text nor the NUL after it begins with an erased byte. -/
theorem head?_encode_ne_erased (text : String) (rest : List UInt8) :
    (Utf8.encode text ++ 0 :: rest).head? ≠ some erased := by
  cases h : Utf8.encode text with
  | nil => simp [erased]
  | cons b bs =>
      have hb : b.toNat < 0xF8 := Utf8.toNat_lt_of_mem_encode (s := text) (by simp [h])
      rw [List.cons_append, List.head?_cons]
      rintro ⟨⟩
      exact absurd hb (by decide)

theorem splitEntry_encodeEntry {name body : String} (hn : NulFree name) (hb : NulFree body)
    (rest : List UInt8) :
    splitEntry (encodeEntry name body ++ rest)
      = some (Utf8.encode name, Utf8.encode body, rest) := by
  have e : encodeEntry name body ++ rest
      = Utf8.encode name ++ 0 :: (Utf8.encode body ++ 0 :: rest) := by
    simp [encodeEntry]
  rw [e, splitEntry, if_neg (head?_encode_ne_erased name _),
    untilNul_append (zero_notMem_encode hn)]
  simp only [untilNul_append (zero_notMem_encode hb), Option.map_some]

theorem splitEntry_erased (k : Nat) : splitEntry (List.replicate k erased) = none := by
  cases k with
  | zero => rfl
  | succ k => rw [splitEntry, List.replicate_succ, List.head?_cons, if_pos rfl]

theorem scanFrom_of_none {bytes : List UInt8} (h : splitEntry bytes = none) (offset : Nat) :
    scanFrom offset bytes = ([], offset) := by
  rw [scanFrom]
  split
  · rfl
  · rename_i e
    rw [h] at e
    cases e

theorem scanFrom_of_some {bytes name body rest : List UInt8}
    (h : splitEntry bytes = some (name, body, rest)) (offset : Nat) :
    scanFrom offset bytes =
      (⟨Utf8.decode name, Utf8.decode body, offset, name.length + body.length + 2⟩ ::
          (scanFrom (offset + (name.length + body.length + 2)) rest).1,
        (scanFrom (offset + (name.length + body.length + 2)) rest).2) := by
  rw [scanFrom]
  split
  · rename_i e
    rw [h] at e
    cases e
  · rename_i e
    rw [h] at e
    cases e
    rfl

/-- **Reading packed macros** answers them in order and stops where the erased bytes begin. -/
theorem scanFrom_encode {m : MacroList} (h : ∀ p ∈ m, NulFree p.1 ∧ NulFree p.2)
    (offset k : Nat) :
    scanFrom offset (m.encode ++ List.replicate k erased) = (m.layout offset, offset + m.size) := by
  induction m generalizing offset with
  | nil => exact scanFrom_of_none (splitEntry_erased k) offset
  | cons p m ih =>
      rw [List.forall_mem_cons] at h
      rw [encode_cons, List.append_assoc, scanFrom_of_some (splitEntry_encodeEntry h.1.1 h.1.2 _)]
      have hsize : (Utf8.encode p.1).length + (Utf8.encode p.2).length + 2 = entrySize p := rfl
      rw [hsize, ih h.2, Utf8.decode_encode, Utf8.decode_encode, layout, size_cons, Nat.add_assoc]

/-! ### The invariant -/

/-- The bytes of the storage are those of the macros, and erased bytes after them. -/
structure Holds (s : Storage) (m : MacroList) : Prop where
  bytes_eq : s.bytes = m.encode ++ List.replicate (s.size - m.size) erased
  fits     : m.size ≤ s.size
  distinct : (m.map (·.1)).Nodup
  nulFree  : ∀ p ∈ m, NulFree p.1 ∧ NulFree p.2

/-- Bytes of that shape hold the macros, whatever the number of erased bytes. -/
theorem holds_of_bytes {m : MacroList} {k : Nat} (hd : (m.map (·.1)).Nodup)
    (hn : ∀ p ∈ m, NulFree p.1 ∧ NulFree p.2) :
    Holds ⟨m.encode ++ List.replicate k erased⟩ m := by
  have hsize : Storage.size ⟨m.encode ++ List.replicate k erased⟩ = m.size + k := by
    simp [Storage.size, length_encode]
  refine ⟨?_, by omega, hd, hn⟩
  rw [hsize, Nat.add_sub_cancel_left]

theorem holds_fresh (size : Nat) : Holds (fresh size) [] :=
  holds_of_bytes (m := []) (k := size) List.nodup_nil (by simp)

section Reading
variable {s : Storage} {m : MacroList}

theorem scan_of_holds (h : s.Holds m) : scanFrom 0 s.bytes = (m.layout 0, m.size) := by
  rw [h.bytes_eq, scanFrom_encode h.nulFree, Nat.zero_add]

theorem entries_of_holds (h : s.Holds m) : s.entries = m.layout 0 := by
  rw [entries, scan_of_holds h]

/-- A storage holds one list of macros only. -/
theorem Holds.unique {n : MacroList} (h : s.Holds m) (hn : s.Holds n) : m = n := by
  rw [← MacroList.map_layout m 0, ← entries_of_holds h, entries_of_holds hn, MacroList.map_layout]

theorem used_of_holds (h : s.Holds m) : s.used = m.size := by
  rw [used, scan_of_holds h]

theorem free_of_holds (h : s.Holds m) : s.free = s.size - m.size := by
  rw [free, used_of_holds h]

theorem find?_of_notMem (h : s.Holds m) {name : String} (hname : name ∉ m.map (·.1)) :
    s.find? name = none := by
  rw [find?, entries_of_holds h, layout_find?_of_notMem hname]

theorem find?_of_split {pre post : MacroList} {name body : String}
    (h : s.Holds (pre ++ (name, body) :: post)) (hname : name ∉ pre.map (·.1)) :
    s.find? name = some ⟨name, body, pre.size, entrySize (name, body)⟩ := by
  rw [find?, entries_of_holds h, layout_find?_of_split hname, Nat.zero_add]

/-- Finding a macro is looking it up in the list. -/
theorem body?_of_holds (h : s.Holds m) (name : String) : s.body? name = m.lookup name := by
  by_cases hname : name ∈ m.map (·.1)
  · obtain ⟨pre, body, post, rfl, hpre⟩ := exists_split hname
    rw [body?, find?_of_split h hpre, lookup_of_split hpre]
    rfl
  · rw [body?, find?_of_notMem h hname, lookup_of_notMem hname]
    rfl

end Reading

/-! ### Operations -/

/-- **Taking an entry out** moves the bytes after it down and erases as many at their end. -/
theorem cut_of_split {s : Storage} (entry : MacroEntry) {a e p f : List UInt8}
    (hbytes : s.bytes = a ++ e ++ p ++ f) (hoffset : entry.offset = a.length)
    (hlength : entry.length = e.length) (hused : s.used = (a ++ e ++ p).length) :
    (s.cut entry).bytes = a ++ p ++ List.replicate e.length erased ++ f := by
  have htake : s.bytes.take s.used = a ++ e ++ p := by rw [hbytes, hused, List.take_left]
  have hdrop : s.bytes.drop s.used = f := by rw [hbytes, hused, List.drop_left]
  have hfirst : s.bytes.take entry.offset = a := by
    rw [hbytes, hoffset, List.append_assoc, List.append_assoc, List.take_left]
  have hlater : (a ++ e ++ p).drop (entry.offset + e.length) = p := by
    rw [hoffset, ← List.length_append, List.drop_left]
  simp only [cut, htake, hdrop, hfirst, hlater, hlength]

/-- Writing a macro over as many bytes as it takes. -/
theorem putEntry_of_split {s : Storage} {address : Nat} (name body : String)
    {a old f : List UInt8} (hbytes : s.bytes = a ++ old ++ f) (haddress : address = a.length)
    (hold : old.length = (encodeEntry name body).length) :
    (s.putEntry address name body).bytes = a ++ encodeEntry name body ++ f := by
  have hfirst : s.bytes.take address = a := by
    rw [hbytes, haddress, List.append_assoc, List.take_left]
  have hlast : s.bytes.drop (address + (encodeEntry name body).length) = f := by
    rw [hbytes, haddress, ← hold, ← List.length_append, List.drop_left]
  simp only [putEntry, hfirst, hlast]

section Operations
variable {s : Storage} {m pre post : MacroList}

theorem Holds.of_bytes {k : Nat} (hbytes : s.bytes = m.encode ++ List.replicate k erased)
    (hd : (m.map (·.1)).Nodup) (hn : ∀ p ∈ m, NulFree p.1 ∧ NulFree p.2) : s.Holds m := by
  obtain ⟨bytes⟩ := s
  rw [show bytes = _ from hbytes]
  exact holds_of_bytes hd hn

/-- Cutting the entry of a macro leaves the other macros. -/
theorem Holds.cut {name body : String} (h : s.Holds (pre ++ (name, body) :: post)) :
    (s.cut ⟨name, body, pre.size, entrySize (name, body)⟩).Holds (pre ++ post) ∧
      (s.cut ⟨name, body, pre.size, entrySize (name, body)⟩).size = s.size := by
  have hbytes := h.bytes_eq
  rw [encode_append, encode_cons, ← List.append_assoc] at hbytes
  have hused : s.used = (pre.encode ++ encodeEntry name body ++ post.encode).length := by
    rw [used_of_holds h, ← length_encode, encode_append, encode_cons, List.append_assoc]
  have hcut := cut_of_split ⟨name, body, pre.size, entrySize (name, body)⟩ hbytes
    (length_encode pre).symm (length_encodeEntry (name, body)).symm hused
  refine ⟨.of_bytes (k := (encodeEntry name body).length +
    (s.size - MacroList.size (pre ++ (name, body) :: post))) ?_ ?_ ?_, ?_⟩
  · rw [hcut, encode_append, List.append_assoc _ (List.replicate _ _),
      List.replicate_append_replicate]
  · exact h.distinct.sublist (((List.sublist_cons_self _ _).append_left _).map _)
  · exact fun p hp => h.nulFree p (by
      rw [List.mem_append] at hp ⊢
      exact hp.imp_right (List.mem_cons_of_mem _))
  · show (s.cut _).bytes.length = s.bytes.length
    rw [hcut, hbytes]
    simp only [List.length_append, List.length_replicate]
    omega

/-- Writing a macro right after the others, where there is room for it, appends it. -/
theorem Holds.putEntry (h : s.Holds m) (name body : String) (hname : name ∉ m.map (·.1))
    (hnul : NulFree name ∧ NulFree body) (hroom : entrySize (name, body) ≤ s.size - m.size) :
    (s.putEntry m.size name body).Holds (m ++ [(name, body)]) ∧
      (s.putEntry m.size name body).size = s.size := by
  have hlen : (encodeEntry name body).length = entrySize (name, body) :=
    length_encodeEntry (name, body)
  have hbytes := h.bytes_eq
  rw [show s.size - m.size = entrySize (name, body) + (s.size - m.size - entrySize (name, body)) by
      omega, ← List.replicate_append_replicate, ← List.append_assoc] at hbytes
  have hput := putEntry_of_split name body hbytes (length_encode m).symm
    (by rw [List.length_replicate, hlen])
  refine ⟨.of_bytes (k := s.size - m.size - entrySize (name, body)) ?_ ?_ ?_, ?_⟩
  · rw [hput, encode_append, encode_cons, encode_nil, List.append_nil]
  · rw [List.map_append, List.map_singleton, List.nodup_append]
    refine ⟨h.distinct, List.nodup_singleton _, fun x hx y hy e => hname ?_⟩
    rw [List.mem_singleton] at hy
    rwa [e, hy] at hx
  · rw [List.forall_mem_append]
    exact ⟨h.nulFree, List.forall_mem_singleton.2 hnul⟩
  · show (s.putEntry _ _ _).bytes.length = s.bytes.length
    rw [hput, hbytes]
    simp only [List.length_append, List.length_replicate, hlen]

variable {name body : String}

theorem holds_eraseAll (s : Storage) : s.eraseAll.Holds [] := holds_fresh s.size

/-- The bytes that a definition finds room in: all but those of the other macros. -/
theorem available_of_holds (h : s.Holds m) (name : String) :
    s.free + ((s.find? name).map (·.length)).getD 0 = s.size - (m.without name).size := by
  have hfits := h.fits
  by_cases hname : name ∈ m.map (·.1)
  · obtain ⟨pre, body, post, rfl, hpre⟩ := exists_split hname
    rw [find?_of_split h hpre, free_of_holds h, without_of_split h.distinct]
    simp only [size_append, size_cons] at hfits ⊢
    simp only [Option.map_some, Option.getD_some]
    omega
  · rw [find?_of_notMem h hname, free_of_holds h, without_of_notMem hname]
    rfl

/-- **Defining** leaves the macro of that name out and appends the new one, where that fits. -/
theorem Holds.define (h : s.Holds m) (hnul : NulFree name ∧ NulFree body)
    (hfit : (m.without name).size + entrySize (name, body) ≤ s.size) :
    ∃ t, s.define name body = .ok t ∧ t.Holds (m.without name ++ [(name, body)]) ∧
      t.size = s.size := by
  have hroom : ¬ s.free + ((s.find? name).map (·.length)).getD 0
      < Utf8.size name + Utf8.size body + 2 := by
    rw [available_of_holds h]
    simp only [entrySize] at hfit
    omega
  rw [Storage.define]
  rw [if_neg hroom]
  by_cases hname : name ∈ m.map (·.1)
  · obtain ⟨pre, old, post, rfl, hpre⟩ := exists_split hname
    have hd := h.distinct
    rw [without_of_split hd] at hfit ⊢
    rw [List.map_append, List.map_cons, List.nodup_middle, List.nodup_cons, ← List.map_append] at hd
    obtain ⟨hcut, hcutsize⟩ := h.cut
    have hused : s.used - entrySize (name, old) = MacroList.size (pre ++ post) := by
      rw [used_of_holds h]
      simp only [size_append, size_cons]
      omega
    obtain ⟨hput, hputsize⟩ := hcut.putEntry name body hd.1 hnul (by omega)
    rw [find?_of_split h hpre]
    simp only [hused]
    exact ⟨_, rfl, hput, hputsize.trans hcutsize⟩
  · rw [without_of_notMem hname] at hfit ⊢
    obtain ⟨hput, hputsize⟩ := h.putEntry name body hname hnul (by omega)
    rw [find?_of_notMem h hname, used_of_holds h]
    exact ⟨_, rfl, hput, hputsize⟩

/-- Where the definition does not fit, it fails with the bytes needed and those there are. -/
theorem Holds.define_full (h : s.Holds m)
    (hfull : s.size < (m.without name).size + entrySize (name, body)) :
    s.define name body =
      .error (.storageFull (entrySize (name, body)) (s.size - (m.without name).size)) := by
  have hsize : (m.without name).size ≤ s.size := Nat.le_trans (size_without_le m name) h.fits
  have hroom : s.size - (m.without name).size < Utf8.size name + Utf8.size body + 2 := by
    simp only [entrySize] at hfull
    omega
  rw [Storage.define]
  rw [available_of_holds h, if_pos hroom]
  rfl

/-- **Removing** leaves the macro of that name out, where there is one. -/
theorem Holds.remove (h : s.Holds m) (hname : name ∈ m.map (·.1)) :
    ∃ t, s.remove? name = some t ∧ t.Holds (m.without name) ∧ t.size = s.size := by
  obtain ⟨pre, body, post, rfl, hpre⟩ := exists_split hname
  rw [without_of_split h.distinct, remove?, find?_of_split h hpre]
  exact ⟨_, rfl, h.cut.1, h.cut.2⟩

theorem Holds.remove_absent (h : s.Holds m) (hname : name ∉ m.map (·.1)) :
    s.remove? name = none := by
  rw [remove?, find?_of_notMem h hname]
  rfl

end Operations

end Storage

end BoardConsole
