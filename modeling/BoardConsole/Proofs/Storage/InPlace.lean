import BoardConsole.Proofs.Storage.Scanning

/-!
# Storage — Working in place on any bytes

The same operations on stored macros, each step spelled out on the bytes themselves: an index, a
range, a difference, a copy inside the bytes or from another text.  A step has no result where the
index or the range lies outside the bytes, the difference falls below zero, or the two texts of a
copy are not of one length (`InPlace`).

* `any_bytes_safe`: on any bytes every operation has a result, the one that the operation on the
  storage has; the entries it goes by tile the bytes that are used (`Tiles`); and where a definition
  does not fit or there is nothing to remove, every byte is as before.

The steps are run on bytes split at the places that they work on (`overwrite_eq`, `copyFrom_eq`),
and `Stores` says where the bytes of a storage split.
-/

namespace BoardConsole.Storage
open Text

/-- Work on bytes in place; no result where a step reaches outside them. -/
abbrev InPlace (α : Type) := StateT (List UInt8) Option α

namespace InPlace

/-! ### Steps -/

/-- The bytes of a range. -/
def slice? (bytes : List UInt8) (start stop : Nat) : Option (List UInt8) :=
  if start ≤ stop ∧ stop ≤ bytes.length then some ((bytes.take stop).drop start) else none

/-- Reads a range. -/
def read (start stop : Nat) : InPlace (List UInt8) := fun bytes =>
  (slice? bytes start stop).map fun part => (part, bytes)

/-- A difference that does not fall below zero. -/
def minus (a b : Nat) : InPlace Nat := fun bytes => if b ≤ a then some (a - b, bytes) else none

/-- Writes bytes over those from an address on. -/
def overwrite (start : Nat) (src : List UInt8) : InPlace Unit := fun bytes =>
  if start + src.length ≤ bytes.length then
    some ((), bytes.take start ++ (src ++ bytes.drop (start + src.length)))
  else none

/-- Writes one byte. -/
def put (address : Nat) (b : UInt8) : InPlace Unit := overwrite address [b]

/-- Copies a range of the bytes to another place of theirs. -/
def copyWithin (start stop dest : Nat) : InPlace Unit := do
  overwrite dest (← read start stop)

/-- Writes one value over a range. -/
def fill (start stop : Nat) (b : UInt8) : InPlace Unit := do
  overwrite start (List.replicate (← read start stop).length b)

/-- Writes bytes over a range of as many. -/
def copyFrom (start stop : Nat) (src : List UInt8) : InPlace Unit := do
  if (← read start stop).length = src.length then overwrite start src else fun _ => none

/-! ### Operations -/

/-- The entries from an address on and the address where they end. -/
def scan (bytes : List UInt8) (pos : Nat) : Option (List MacroEntry × Nat) :=
  if _h : pos < bytes.length then do
    if (← bytes[pos]?) = erased then return ([], pos)
    else
      match (← slice? bytes pos bytes.length).idxOf? 0 with
      | none => return ([], pos)
      | some nameLength =>
        let bodyStart := pos + nameLength + 1
        match (slice? bytes bodyStart bytes.length).bind (·.idxOf? 0) with
        | none => return ([], pos)
        | some bodyLength =>
          let length := nameLength + bodyLength + 2
          let name ← slice? bytes pos (pos + nameLength)
          let body ← slice? bytes bodyStart (bodyStart + bodyLength)
          let (entries, fin) ← scan bytes (pos + length)
          return (⟨Utf8.decode name, Utf8.decode body, pos, length⟩ :: entries, fin)
  else return ([], pos)
termination_by bytes.length - pos

/-- Every entry and the address where they end. -/
def scanAll : InPlace (List MacroEntry × Nat) := fun bytes =>
  (scan bytes 0).map fun scanned => (scanned, bytes)

/-- Moves the later entries down and erases the bytes that become free. -/
def removeEntry (entry : MacroEntry) (fin : Nat) : InPlace Unit := do
  copyWithin (entry.offset + entry.length) fin entry.offset
  fill (← minus fin entry.length) fin erased

/-- Writes an entry at an address. -/
def writeEntry (start : Nat) (name body : List UInt8) : InPlace Unit := do
  let nameEnd := start + name.length
  copyFrom start nameEnd name
  put nameEnd 0
  copyFrom (nameEnd + 1) (nameEnd + 1 + body.length) body
  put (← minus (start + (name.length + body.length + 2)) 1) 0

/-- Every stored macro. -/
def list : InPlace (List MacroEntry) := do
  return (← scanAll).1

/-- The body of the macro of a name. -/
def find (name : String) : InPlace (Option String) := do
  return ((← scanAll).1.find? (·.name == name)).map (·.body)

/-- The bytes past an address. -/
def past (fin : Nat) : InPlace Nat := do
  minus (← get).length fin

/-- The bytes that the macros take and those past them. -/
def usage : InPlace (Nat × Nat) := do
  let (_, fin) ← scanAll
  return (fin, ← past fin)

/-- Removes the entry there is; the address where the entries then end. -/
def makeRoom (existing : Option MacroEntry) (fin : Nat) : InPlace Nat :=
  match existing with
  | some entry => do
    removeEntry entry fin
    minus fin entry.length
  | none => pure fin

/-- Stores a macro in place of the one of that name, if there is one. -/
def define (name body : String) : InPlace (Except HostError Unit) := do
  let (entries, fin) ← scanAll
  let existing := entries.find? (·.name == name)
  let needed := Utf8.size name + Utf8.size body + 2
  let available := (← past fin) + (existing.map (·.length)).getD 0
  if available < needed then return .error (.storageFull needed available)
  else do
    writeEntry (← makeRoom existing fin) (Utf8.encode name) (Utf8.encode body)
    return .ok ()

/-- Removes the macro of a name; whether there was one. -/
def remove (name : String) : InPlace Bool := do
  let (entries, fin) ← scanAll
  match entries.find? (·.name == name) with
  | some entry =>
    removeEntry entry fin
    return true
  | none => return false

/-! ### Steps on split bytes -/

section Steps
variable {α β : Type} {a b c old src bytes after : List UInt8} {start stop : Nat}

theorem bind_eq {x : InPlace α} {f : α → InPlace β} {r : α} (h : x bytes = some (r, after)) :
    (x >>= f) bytes = f r after := by
  simp only [bind, StateT.bind, h, Option.bind_some]

theorem slice?_eq (hbytes : bytes = a ++ (b ++ c)) (hstart : start = a.length)
    (hstop : stop = start + b.length) : slice? bytes start stop = some b := by
  subst hbytes hstart hstop
  rw [slice?, if_pos (by simp), ← List.append_assoc, ← List.length_append, List.take_left,
    List.drop_left]

theorem read_eq (hbytes : bytes = a ++ (b ++ c)) (hstart : start = a.length)
    (hstop : stop = start + b.length) : read start stop bytes = some (b, bytes) := by
  rw [read, slice?_eq hbytes hstart hstop, Option.map_some]

theorem minus_eq {m n : Nat} (h : n ≤ m) : minus m n bytes = some (m - n, bytes) := if_pos h

theorem overwrite_eq (hbytes : bytes = a ++ (old ++ c)) (hstart : start = a.length)
    (hlength : old.length = src.length) :
    overwrite start src bytes = some ((), a ++ (src ++ c)) := by
  subst hbytes hstart
  have hfits : a.length + src.length ≤ (a ++ (old ++ c)).length := by
    simp only [List.length_append, hlength]
    omega
  have hrest : (a ++ (old ++ c)).drop (a.length + src.length) = c := by
    rw [← hlength, ← List.length_append, ← List.append_assoc, List.drop_left]
  rw [overwrite, if_pos hfits, hrest, List.take_left]

theorem fill_eq {value : UInt8} (hbytes : bytes = a ++ (old ++ c)) (hstart : start = a.length)
    (hstop : stop = start + old.length) :
    fill start stop value bytes = some ((), a ++ (List.replicate old.length value ++ c)) := by
  rw [fill, bind_eq (read_eq hbytes hstart hstop)]
  exact overwrite_eq hbytes hstart List.length_replicate.symm

theorem copyFrom_eq (hbytes : bytes = a ++ (old ++ c)) (hstart : start = a.length)
    (hlength : old.length = src.length) :
    copyFrom start (start + src.length) src bytes = some ((), a ++ (src ++ c)) := by
  rw [copyFrom, bind_eq (read_eq hbytes hstart (by rw [hlength])), if_pos hlength]
  exact overwrite_eq hbytes hstart hlength

/-- Room for a name, a byte, a body and a byte, and what is left of it. -/
theorem exists_room {room : List UInt8} {n m : Nat} (h : n + m + 2 ≤ room.length) :
    ∃ r₁ x r₂ y, room = r₁ ++ ([x] ++ (r₂ ++ ([y] ++ room.drop (n + m + 2)))) ∧
      r₁.length = n ∧ r₂.length = m := by
  obtain ⟨x, t, ht⟩ := List.exists_cons_of_length_pos (l := room.drop n) (by
    rw [List.length_drop]
    omega)
  have htlength : t.length = room.length - n - 1 := by
    rw [← List.length_drop, ht, List.length_cons, Nat.add_sub_cancel]
  obtain ⟨y, r, hr⟩ := List.exists_cons_of_length_pos (l := t.drop m) (by
    rw [List.length_drop]
    omega)
  have hrest : room.drop (n + m + 2) = r := by
    rw [show n + m + 2 = n + (m + 1 + 1) by omega, ← List.drop_drop, ht, List.drop_succ_cons,
      ← List.drop_drop, hr]
    rfl
  refine ⟨room.take n, x, t.take m, y, ?_, ?_, ?_⟩
  · calc room = room.take n ++ room.drop n := (List.take_append_drop n room).symm
      _ = room.take n ++ ([x] ++ (t.take m ++ t.drop m)) := by rw [ht, List.take_append_drop]; rfl
      _ = _ := by rw [hr, hrest]; rfl
  · rw [List.length_take]
    omega
  · rw [List.length_take]
    omega

/-- **Writing an entry** over the beginning of the room there is. -/
theorem writeEntry_eq {name body room : List UInt8} (hbytes : bytes = a ++ room)
    (hstart : start = a.length) (hroom : name.length + body.length + 2 ≤ room.length) :
    writeEntry start name body bytes
      = some ((), a ++ (name ++ 0 :: body ++ [0])
          ++ room.drop (name.length + body.length + 2)) := by
  obtain ⟨r₁, x, r₂, y, hsplit, hname, hbody⟩ := exists_room hroom
  generalize room.drop (name.length + body.length + 2) = rest at hsplit ⊢
  rw [hsplit] at hbytes
  rw [writeEntry, bind_eq (copyFrom_eq hbytes hstart hname)]
  have hfirst : put (start + name.length) 0 (a ++ (name ++ ([x] ++ (r₂ ++ ([y] ++ rest)))))
      = some ((), a ++ name ++ ([0] ++ (r₂ ++ ([y] ++ rest)))) :=
    overwrite_eq (List.append_assoc _ _ _).symm (by rw [hstart, List.length_append]) rfl
  rw [bind_eq hfirst]
  have hbodyAt : copyFrom (start + name.length + 1) (start + name.length + 1 + body.length) body
      (a ++ name ++ ([0] ++ (r₂ ++ ([y] ++ rest))))
      = some ((), a ++ name ++ [0] ++ (body ++ ([y] ++ rest))) :=
    copyFrom_eq (List.append_assoc _ _ _).symm (by simp [hstart, Nat.add_assoc]) hbody
  rw [bind_eq hbodyAt, bind_eq (minus_eq (by omega))]
  have hlast : put (start + (name.length + body.length + 2) - 1) 0
      (a ++ name ++ [0] ++ (body ++ ([y] ++ rest)))
      = some ((), a ++ name ++ [0] ++ body ++ ([0] ++ rest)) :=
    overwrite_eq (List.append_assoc _ _ _).symm
      (by simp only [hstart, List.length_append, List.length_singleton]; omega) rfl
  rw [hlast]
  simp

/-- **Removing an entry** moves what follows it down, and erases as many bytes. -/
theorem removeEntry_eq {entry : MacroEntry} {e p f : List UInt8} {fin : Nat}
    (hbytes : bytes = a ++ (e ++ (p ++ f))) (hoffset : entry.offset = a.length)
    (hlength : entry.length = e.length) (hfin : fin = a.length + e.length + p.length) :
    removeEntry entry fin bytes
      = some ((), a ++ (p ++ (List.replicate e.length erased ++ f))) := by
  have hmove : copyWithin (entry.offset + entry.length) fin entry.offset bytes
      = some ((), a ++ (p ++ ((e ++ p).drop p.length ++ f))) := by
    have hlater : bytes = a ++ e ++ (p ++ f) := by rw [hbytes, List.append_assoc]
    have hover : bytes = a ++ ((e ++ p).take p.length ++ ((e ++ p).drop p.length ++ f)) := by
      rw [hbytes, ← List.append_assoc ((e ++ p).take _), List.take_append_drop, List.append_assoc]
    rw [copyWithin, bind_eq (read_eq hlater (by rw [hoffset, hlength, List.length_append])
      (by rw [hoffset, hlength, hfin]))]
    refine overwrite_eq hover hoffset ?_
    rw [List.length_take, List.length_append]
    omega
  have hdrop : ((e ++ p).drop p.length).length = e.length := by
    rw [List.length_drop, List.length_append, Nat.add_sub_cancel]
  rw [removeEntry, bind_eq hmove, bind_eq (minus_eq (by rw [hlength, hfin]; omega))]
  have hfill : fill (fin - entry.length) fin erased
      (a ++ (p ++ ((e ++ p).drop p.length ++ f)))
      = some ((), a ++ p ++ (List.replicate e.length erased ++ f)) := by
    rw [← hdrop]
    refine fill_eq (List.append_assoc _ _ _).symm ?_ ?_
    · rw [hlength, hfin, List.length_append]
      omega
    · rw [hdrop, hlength, hfin]
      omega
  rw [hfill, List.append_assoc]

end Steps

/-! ### The scan -/

theorem idxOf?_zero (bytes : List UInt8) :
    bytes.idxOf? 0 = (untilNul bytes).map (·.1.length) := by
  induction bytes with
  | nil => rfl
  | cons b bytes ih =>
      rw [List.idxOf?_cons, untilNul]
      by_cases hb : b = 0
      · simp [hb]
      · rw [if_neg hb, if_neg (by simpa using hb), ih]
        cases untilNul bytes <;> rfl

/-- **The scan in place** has a result everywhere, that of the scan of the bytes from there on. -/
theorem scan_eq (a bytes : List UInt8) :
    scan (a ++ bytes) a.length = some (scanFrom a.length bytes) := by
  induction hn : bytes.length using Nat.strong_induction_on generalizing a bytes with
  | h n ih =>
    rw [scan]
    cases bytes with
    | nil =>
        rw [dif_neg (by simp), scanFrom_of_none rfl]
        rfl
    | cons b bs =>
        have hfirst : (a ++ b :: bs)[a.length]? = some b := by simp
        have hall : slice? (a ++ b :: bs) a.length (a ++ b :: bs).length = some (b :: bs) :=
          slice?_eq (by rw [List.append_nil]) rfl List.length_append
        rw [dif_pos (by simp)]
        simp only [hfirst, hall, idxOf?_zero, Option.bind_eq_bind, Option.bind_some]
        by_cases hb : b = erased
        · rw [if_pos hb, scanFrom_of_none (by rw [splitEntry, List.head?_cons, hb, if_pos rfl])]
          rfl
        rw [if_neg hb]
        have hhead : ¬ (b :: bs).head? = some erased := by simpa using hb
        cases hname : untilNul (b :: bs) with
        | none =>
            rw [scanFrom_of_none (by rw [splitEntry, if_neg hhead, hname])]
            rfl
        | some split =>
            obtain ⟨name, r⟩ := split
            have hbytes : a ++ b :: bs = a ++ name ++ [0] ++ (r ++ []) := by
              rw [(untilNul_eq_some hname).2]
              simp
            have hbehind : slice? (a ++ b :: bs) (a.length + name.length + 1) (a ++ b :: bs).length
                = some r :=
              slice?_eq hbytes (by simp [Nat.add_assoc])
                (by
                  rw [hbytes]
                  simp only [List.length_append, List.length_singleton, List.length_nil]
                  omega)
            simp only [Option.map_some, hbehind, Option.bind_some]
            cases hbody : untilNul r with
            | none =>
                have hnone : splitEntry (b :: bs) = none := by
                  rw [splitEntry, if_neg hhead, hname]
                  simp only [hbody, Option.map_none]
                rw [scanFrom_of_none hnone]
                rfl
            | some split =>
                obtain ⟨body, rest⟩ := split
                have hsome : splitEntry (b :: bs) = some (name, body, rest) := by
                  rw [splitEntry, if_neg hhead, hname]
                  simp only [hbody, Option.map_some]
                have hlength := length_splitEntry hsome
                have hr := (untilNul_eq_some hbody).2
                have hnameAt : slice? (a ++ b :: bs) a.length (a.length + name.length)
                    = some name :=
                  slice?_eq (by rw [(untilNul_eq_some hname).2]) rfl rfl
                have hbodyAt : slice? (a ++ b :: bs) (a.length + name.length + 1)
                    (a.length + name.length + 1 + body.length) = some body :=
                  slice?_eq (by rw [hbytes, hr, List.append_nil])
                    (by simp only [List.length_append, List.length_singleton]) rfl
                have hnext : scan (a ++ b :: bs) (a.length + (name.length + body.length + 2))
                    = some (scanFrom (a.length + (name.length + body.length + 2)) rest) := by
                  have hsplit : a ++ b :: bs = a ++ (name ++ 0 :: body ++ [0]) ++ rest := by
                    rw [hbytes, hr]
                    simp
                  have hfrom : (a ++ (name ++ 0 :: body ++ [0])).length
                      = a.length + (name.length + body.length + 2) := by
                    simp only [List.length_append, List.length_cons, List.length_nil]
                    omega
                  rw [hsplit, ← hfrom]
                  exact ih rest.length (by omega) _ rest rfl
                simp only [Option.map_some, hnameAt, hbodyAt, hnext, Option.bind_some]
                rw [scanFrom_of_some hsome]
                rfl

/-! ### Operations on a storage -/

theorem scanAll_eq (s : Storage) : scanAll s.bytes = some ((s.entries, s.used), s.bytes) := by
  have hscan := scan_eq [] s.bytes
  rw [List.nil_append, List.length_nil] at hscan
  rw [scanAll, hscan]
  rfl

theorem removeEntry_cut {s : Storage} {name : String} {entry : MacroEntry}
    (hfind : s.find? name = some entry) :
    removeEntry entry s.used s.bytes = some ((), (s.cut entry).bytes) := by
  obtain ⟨es, rest, h⟩ := exists_stores s
  rcases h.find?_cases name with ⟨hnone, -⟩ | ⟨pre, e, post, rfl, -, hsome⟩
  · rw [hnone] at hfind
    cases hfind
  · obtain rfl := Option.some.inj (hsome.symm.trans hfind)
    have hbytes : s.bytes = storedBytes pre ++ (e.bytes ++ (storedBytes post ++ rest)) := by
      rw [h.bytes_eq, storedBytes_append, storedBytes_cons, List.append_assoc, List.append_assoc]
    have hused :
        s.used = (storedBytes pre).length + e.bytes.length + (storedBytes post).length := by
      rw [h.used_eq, storedBytes_append, storedBytes_cons, List.length_append, List.length_append,
        Nat.add_assoc]
    rw [removeEntry_eq hbytes rfl e.length_bytes.symm hused, h.cut_eq, e.length_bytes,
      storedBytes_append, List.append_assoc]

/-- What a definition leaves: nothing but its error, or the storage it makes. -/
def outcome (s : Storage) : Except HostError Storage → Except HostError Unit × List UInt8
  | .ok t    => (.ok (), t.bytes)
  | .error e => (.error e, s.bytes)

theorem list_eq (s : Storage) : list s.bytes = some (s.entries, s.bytes) := by
  rw [list, bind_eq (scanAll_eq s)]
  rfl

theorem find_eq (s : Storage) (name : String) :
    find name s.bytes = some (s.body? name, s.bytes) := by
  rw [find, bind_eq (scanAll_eq s)]
  rfl

theorem used_le_size (s : Storage) : s.used ≤ s.bytes.length := by
  obtain ⟨es, rest, h⟩ := exists_stores s
  have hsize : s.bytes.length = s.used + rest.length := h.size_eq
  omega

theorem past_eq (s : Storage) : past s.used s.bytes = some (s.free, s.bytes) :=
  minus_eq (used_le_size s)

theorem usage_eq (s : Storage) : usage s.bytes = some ((s.used, s.free), s.bytes) := by
  rw [usage, bind_eq (scanAll_eq s)]
  dsimp only
  rw [bind_eq (past_eq s)]
  rfl

theorem remove_eq (s : Storage) (name : String) :
    remove name s.bytes = some (match s.remove? name with
      | some t => (true, t.bytes)
      | none   => (false, s.bytes)) := by
  rw [remove, bind_eq (scanAll_eq s)]
  show (match s.find? name with
    | some entry => (do removeEntry entry s.used; return true : InPlace Bool)
    | none       => pure false) s.bytes = _
  rw [remove?]
  cases hfind : s.find? name with
  | none => rfl
  | some entry =>
      simp only [Option.map_some]
      rw [bind_eq (removeEntry_cut hfind)]
      rfl

/-- Making room and writing an entry, where the definition succeeds. -/
theorem makeRoom_writeEntry {s t : Storage} {name body : String}
    (ht : s.define name body = .ok t) :
    ∃ start between, makeRoom (s.find? name) s.used s.bytes = some (start, between) ∧
      writeEntry start (Utf8.encode name) (Utf8.encode body) between = some ((), t.bytes) := by
  obtain ⟨es, rest, h⟩ := exists_stores s
  have hfree : s.free = rest.length := by rw [free, h.size_eq, Nat.add_sub_cancel_left]
  rw [Storage.define] at ht
  split at ht
  · cases ht
  rename_i hfits
  have hneeded : (Utf8.encode name).length + (Utf8.encode body).length + 2
      ≤ rest.length + ((s.find? name).map (·.length)).getD 0 := by
    rw [← hfree]
    exact Nat.le_of_not_lt hfits
  have hsize : (encodeEntry name body).length
      = (Utf8.encode name).length + (Utf8.encode body).length + 2 :=
    MacroList.length_encodeEntry (name, body)
  rcases h.find?_cases name with ⟨hnone, -⟩ | ⟨pre, e, post, rfl, -, hsome⟩
  · rw [hnone] at hneeded
    simp only [hnone, Except.ok.injEq] at ht
    refine ⟨s.used, s.bytes, by rw [hnone]; rfl, ?_⟩
    rw [writeEntry_eq h.bytes_eq h.used_eq hneeded, ← ht,
      putEntry_append name body h.bytes_eq h.used_eq, hsize]
    rfl
  · simp only [hsome, Except.ok.injEq, StoredEntry.length_read] at ht
    simp only [hsome, Option.map_some, Option.getD_some, StoredEntry.length_read] at hneeded
    have hused := h.used_split
    have haddress : s.used - e.size = (storedBytes (pre ++ post)).length := by
      rw [hused, Nat.add_sub_cancel]
    have hroom : (Utf8.encode name).length + (Utf8.encode body).length + 2
        ≤ (List.replicate e.size erased ++ rest).length := by
      rw [List.length_append, List.length_replicate]
      omega
    refine ⟨s.used - e.size, (s.cut (e.read (storedBytes pre).length)).bytes, ?_, ?_⟩
    · rw [hsome, makeRoom, bind_eq (removeEntry_cut hsome), StoredEntry.length_read,
        minus_eq (by omega)]
    · rw [writeEntry_eq h.cut_eq haddress hroom, ← ht,
        putEntry_append name body h.cut_eq haddress, hsize]
      rfl

theorem define_eq (s : Storage) (name body : String) :
    define name body s.bytes = some (outcome s (s.define name body)) := by
  rw [define, bind_eq (scanAll_eq s)]
  dsimp only
  rw [bind_eq (past_eq s)]
  show (if s.free + ((s.find? name).map (·.length)).getD 0 < Utf8.size name + Utf8.size body + 2
    then _ else _ : InPlace _) s.bytes = _
  by_cases hfull : s.free + ((s.find? name).map (·.length)).getD 0
      < Utf8.size name + Utf8.size body + 2
  · have herror : s.define name body = .error (.storageFull (Utf8.size name + Utf8.size body + 2)
        (s.free + ((s.find? name).map (·.length)).getD 0)) := if_pos hfull
    rw [if_pos hfull, herror]
    rfl
  · obtain ⟨t, ht⟩ : ∃ t, s.define name body = .ok t := by
      rw [Storage.define, if_neg hfull]
      cases s.find? name <;> exact ⟨_, rfl⟩
    obtain ⟨start, between, hmake, hwrite⟩ := makeRoom_writeEntry ht
    have hfound : s.entries.find? (·.name == name) = s.find? name := rfl
    rw [if_neg hfull, ht, hfound, bind_eq hmake, bind_eq hwrite]
    rfl

end InPlace

/-! ### What the entries cover -/

/-- Entries that lie one after another from an address on, up to where none begins. -/
inductive Tiles (bytes : List UInt8) : (pos : Nat) → List MacroEntry → (fin : Nat) → Prop where
  | done {pos : Nat} : Ends (bytes.drop pos) → Tiles bytes pos [] pos
  | entry {pos fin : Nat} {entries : List MacroEntry} (e : StoredEntry) :
      e.bytes <+: bytes.drop pos → ¬ Ends (bytes.drop pos) →
      Tiles bytes (pos + e.size) entries fin → Tiles bytes pos (e.read pos :: entries) fin

theorem tiles_readAll {rest : List UInt8} (hends : Ends rest) (es : List StoredEntry)
    (before : List UInt8) :
    Tiles (before ++ (storedBytes es ++ rest)) before.length (readAll before.length es)
      (before.length + (storedBytes es).length) := by
  induction es generalizing before with
  | nil =>
      refine .done ?_
      rw [List.drop_left]
      exact hends
  | cons e es ih =>
      have hdrop : (before ++ (storedBytes (e :: es) ++ rest)).drop before.length
          = e.bytes ++ (storedBytes es ++ rest) := by
        rw [List.drop_left, storedBytes_cons, List.append_assoc]
      refine .entry e ?_ ?_ ?_
      · rw [hdrop]
        exact List.prefix_append _ _
      · rw [hdrop, ← splitEntry_eq_none_iff, splitEntry_stored]
        simp
      · have hnext := ih (before ++ e.bytes)
        rw [List.length_append, e.length_bytes, Nat.add_assoc, List.append_assoc] at hnext
        rw [storedBytes_cons, List.length_append, e.length_bytes, List.append_assoc]
        exact hnext

theorem tiles_entries (s : Storage) : Tiles s.bytes 0 s.entries s.used := by
  obtain ⟨es, rest, h⟩ := exists_stores s
  have htiles := tiles_readAll h.ends es []
  rw [List.length_nil, Nat.zero_add, List.nil_append, ← h.bytes_eq] at htiles
  rwa [h.entries_eq, h.used_eq]

/-- **The macro store is safe on any bytes.**  The entries tile the used bytes; every operation has
a result in place, that of the storage; and one that fails leaves every byte. -/
theorem any_bytes_safe (s : Storage) (name body : String) :
    (Tiles s.bytes 0 s.entries s.used ∧ s.used ≤ s.size) ∧
      InPlace.scanAll s.bytes = some ((s.entries, s.used), s.bytes) ∧
      InPlace.list s.bytes = some (s.entries, s.bytes) ∧
      InPlace.find name s.bytes = some (s.body? name, s.bytes) ∧
      InPlace.usage s.bytes = some ((s.used, s.free), s.bytes) ∧
      InPlace.define name body s.bytes = some (match s.define name body with
        | .ok t    => (.ok (), t.bytes)
        | .error e => (.error e, s.bytes)) ∧
      InPlace.remove name s.bytes = some (match s.remove? name with
        | some t => (true, t.bytes)
        | none   => (false, s.bytes)) := by
  refine ⟨⟨tiles_entries s, InPlace.used_le_size s⟩, InPlace.scanAll_eq s, InPlace.list_eq s,
    InPlace.find_eq s name, InPlace.usage_eq s, ?_, InPlace.remove_eq s name⟩
  rw [InPlace.define_eq]
  cases s.define name body <;> rfl

end BoardConsole.Storage
