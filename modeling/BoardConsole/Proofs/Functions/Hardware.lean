import BoardConsole.Proofs.Functions.Effects

/-!
# Functions — The board as two maps

The functions of the board are called one after another, with any arguments; the calls made so far
are a list, the last one first.

* `calls_keep_two_maps`: the board is a map from pins to levels and a map from addresses to bytes.
  Which calls fail, what reading answers and what each call leaves alone follow from the sizes and
  from the last write to the place that is read (`lastWritten`).
-/

namespace BoardConsole

namespace Hardware

/-! ### Numbers as places -/

theorem toInt_eq (n : Int32) :
    n.toInt = if 2 * n.toUInt32.toNat < 2 ^ 32 then (n.toUInt32.toNat : Int)
      else n.toUInt32.toNat - (2 ^ 32 : Nat) :=
  BitVec.toInt_eq_toNat_cond n.toBitVec

theorem pinOf_of_nonneg {n : Int32} (h : 0 ≤ n.toInt) : ((pinOf n).toNat : Int) = n.toInt := by
  have hn : ¬ n < 0 := by
    rw [Int32.lt_iff_toInt_lt]
    exact Int.not_lt.mpr h
  have hlt := n.toUInt32.toNat_lt
  rw [pinOf, if_neg hn]
  rw [toInt_eq] at h ⊢
  split at h <;> split <;> omega

/-- A pin is there exactly if its number is one of those of the bank. -/
theorem pinOf_lt_iff (n : Int32) (count : UInt32) :
    pinOf n < count ↔ 0 ≤ n.toInt ∧ n.toInt < count.toNat := by
  by_cases h : 0 ≤ n.toInt
  · rw [UInt32.lt_iff_toNat_lt, ← pinOf_of_nonneg h]
    omega
  · have hn : n < 0 := Int32.lt_iff_toInt_lt.mpr (Int.not_le.mp h)
    have hlt := count.toNat_lt
    rw [pinOf, if_pos hn, UInt32.lt_iff_toNat_lt]
    simp only [UInt32.reduceToNat]
    omega

theorem addressOf_of_nonneg {n : Int32} (h : 0 ≤ n.toInt) : (addressOf n : Int) = n.toInt := by
  have hn : ¬ n < 0 := by
    rw [Int32.lt_iff_toInt_lt]
    exact Int.not_lt.mpr h
  rw [addressOf, if_neg hn]
  exact Int.toNat_of_nonneg h

/-- An address is there exactly if its number is one of those of the store. -/
theorem addressOf_lt_iff (n : Int32) (size : UInt64) :
    addressOf n < size.toNat ↔ 0 ≤ n.toInt ∧ n.toInt < size.toNat := by
  by_cases h : 0 ≤ n.toInt
  · rw [← addressOf_of_nonneg h]
    omega
  · have hn : n < 0 := Int32.lt_iff_toInt_lt.mpr (Int.not_le.mp h)
    have hlt := size.toNat_lt
    have hlast : Nat.pow 2 64 = 2 ^ 64 := rfl
    rw [addressOf, if_pos hn, hlast]
    omega

/-- The low eight bits of a number are its remainder modulo 256. -/
theorem toNat_lowBits (n : Int32) : (n.toUInt32.toUInt8.toNat : Int) = n.toInt % 256 := by
  have hlt := n.toUInt32.toNat_lt
  rw [UInt32.toNat_toUInt8, toInt_eq]
  push_cast
  split <;> omega

/-! ### Calls -/

/-- A call of a function of the board. -/
structure Call where
  name     : String
  function : Function
  inv      : Invocation
  known    : (name, function) ∈ all

namespace Call

/-- The number of the pin or the address that a call names. -/
def place (c : Call) : Int := (c.inv.numOrZero 1).toInt

/-- The number that a call hands over for it. -/
def value (c : Call) : Int32 := c.inv.numOrZero 2

/-- What a call answers. -/
def answer (c : Call) (h : Host) : Except HostError Int32 :=
  BoardConsole.answer (c.function c.inv h)

/-- The host after a call, however it ends. -/
def next (c : Call) (h : Host) : Host := endState (c.function c.inv h)

theorem acts (c : Call) : Acts c.name c.function := all_act _ c.known

theorem answer_digitalRead {c : Call} (hc : c.name = "digitalRead") (h : Host) :
    c.answer h
      = (h.pins.read (pinOf (c.inv.numOrZero 1))).map fun high => if high then 1 else 0 := by
  obtain ⟨name, function, inv, known⟩ := c
  subst hc
  have hfunction : function = digitalRead := by simpa [all] using known
  subst hfunction
  exact answer_value (fun high : Bool => if high then 1 else 0) _ h

theorem answer_eeread {c : Call} (hc : c.name = "eeread") (h : Host) :
    c.answer h
      = (h.storage.read (addressOf (c.inv.numOrZero 1))).map fun b => Int32.ofNat b.toNat := by
  obtain ⟨name, function, inv, known⟩ := c
  subst hc
  have hfunction : function = eeread := by simpa [all] using known
  subst hfunction
  exact answer_value (fun b : UInt8 => Int32.ofNat b.toNat) _ h

end Call

/-- The host after these calls, the last one first. -/
def after (h : Host) : List Call → Host
  | []        => h
  | c :: past => c.next (after h past)

/-- The value that a function of a name was last called with for a place. -/
def lastWritten (name : String) (place : Int) (past : List Call) : Option Int32 :=
  (past.find? fun c => c.name == name && c.place == place).map Call.value

theorem lastWritten_cons_of {c : Call} {name : String} {place : Int}
    (h : c.name = name ∧ c.place = place) (past : List Call) :
    lastWritten name place (c :: past) = some c.value := by
  rw [lastWritten, List.find?_cons_of_pos (by simpa using h), Option.map_some]

theorem lastWritten_cons_of_not {c : Call} {name : String} {place : Int}
    (h : ¬ (c.name = name ∧ c.place = place)) (past : List Call) :
    lastWritten name place (c :: past) = lastWritten name place past := by
  rw [lastWritten, List.find?_cons_of_neg (by simpa using h), lastWritten]

/-- The level that was last written to a pin. -/
def levelWritten (past : List Call) (n : Nat) : Bool :=
  (lastWritten "digitalWrite" n past).getD 0 != 0

/-- The byte that was last written to an address. -/
def byteWritten (past : List Call) (a : Nat) : UInt8 :=
  ((lastWritten "eewrite" a past).map fun v => v.toUInt32.toUInt8).getD Storage.erased

/-! ### What the board keeps of its past -/

/-- A bank of so many pins has the levels that were written to them, and no others. -/
structure Levels (b : PinBank) (count : UInt32) (past : List Call) : Prop where
  count_eq : b.count = count
  level_eq : ∀ n, b.level n = (decide (n < count.toNat) && levelWritten past n)

/-- A store of so many bytes has those that were written to it. -/
structure Bytes (s : Storage) (size : UInt64) (past : List Call) : Prop where
  size_eq : s.size = size.toNat
  byte_eq : ∀ a < size.toNat, s.bytes[a]? = some (byteWritten past a)

section Kept
variable {b : PinBank} {s : Storage} {count : UInt32} {size : UInt64} {past : List Call} {c : Call}

/-- A call that writes to no pin of the bank. -/
theorem Levels.of_not_written (hpins : Levels b count past)
    (h : ∀ n : Nat, n < count.toNat → ¬ (c.name = "digitalWrite" ∧ c.place = n)) :
    Levels b count (c :: past) := by
  refine ⟨hpins.count_eq, fun n => ?_⟩
  rw [hpins.level_eq]
  by_cases hn : n < count.toNat
  · rw [levelWritten, levelWritten, lastWritten_cons_of_not (h n hn)]
  · simp [hn]

/-- A call that writes to a pin of the bank. -/
theorem Levels.of_written {b' : PinBank} (hpins : Levels b count past)
    (hname : c.name = "digitalWrite") {pin : Nat} (hplace : c.place = pin) (hpin : pin < count.toNat)
    (hcount : b'.count = b.count)
    (hlevel : ∀ n, b'.level n = if n = pin then c.value != 0 else b.level n) :
    Levels b' count (c :: past) := by
  refine ⟨hcount.trans hpins.count_eq, fun n => ?_⟩
  rw [hlevel, hpins.level_eq, levelWritten, levelWritten]
  by_cases hn : n = pin
  · rw [if_pos hn, lastWritten_cons_of ⟨hname, hn ▸ hplace⟩, hn, decide_eq_true hpin, Bool.true_and,
      Option.getD_some]
  · have hother : ¬ (c.name = "digitalWrite" ∧ c.place = n) := by
      rintro ⟨-, heq⟩
      omega
    rw [if_neg hn, lastWritten_cons_of_not hother]

/-- A call that writes to no byte of the store. -/
theorem Bytes.of_not_written (hbytes : Bytes s size past)
    (h : ∀ a : Nat, a < size.toNat → ¬ (c.name = "eewrite" ∧ c.place = a)) :
    Bytes s size (c :: past) := by
  refine ⟨hbytes.size_eq, fun a ha => ?_⟩
  rw [hbytes.byte_eq a ha, byteWritten, byteWritten, lastWritten_cons_of_not (h a ha)]

/-- A call that writes to a byte of the store. -/
theorem Bytes.of_written (hbytes : Bytes s size past) (hname : c.name = "eewrite") {address : Nat}
    (hplace : c.place = address) :
    Bytes ⟨s.bytes.set address c.value.toUInt32.toUInt8⟩ size (c :: past) := by
  refine ⟨(List.length_set).trans hbytes.size_eq, fun a ha => ?_⟩
  have hlength : a < s.bytes.length := Nat.lt_of_lt_of_eq ha hbytes.size_eq.symm
  rw [List.getElem?_set, byteWritten]
  by_cases ha' : address = a
  · subst ha'
    rw [if_pos rfl, if_pos hlength, lastWritten_cons_of ⟨hname, hplace⟩]
    rfl
  · have hother : ¬ (c.name = "eewrite" ∧ c.place = a) := by
      rintro ⟨-, heq⟩
      omega
    rw [if_neg ha', lastWritten_cons_of_not hother, hbytes.byte_eq a ha, byteWritten]

end Kept

section Steps
variable {h : Host} {count : UInt32} {size : UInt64} {past : List Call}

theorem Levels.next (hpins : Levels h.pins count past) (hcount : count ≤ PinBank.most) (c : Call) :
    Levels (c.next h).pins count (c :: past) := by
  rw [Call.next, c.acts.pins, pinsAfter]
  by_cases hname : c.name = "digitalWrite"
  · rw [if_pos hname]
    by_cases hpin : pinOf (c.inv.numOrZero 1) < h.pins.count
    · have hplace := pinOf_of_nonneg ((pinOf_lt_iff _ _).mp hpin).1
      have hlt := UInt32.lt_iff_toNat_lt.mp hpin
      rw [hpins.count_eq] at hlt
      exact hpins.of_written hname hplace.symm hlt (PinBank.count_written _)
        (PinBank.level_written (hpins.count_eq ▸ hcount) hpin _)
    -- the number of a pin that is not there is none of the board's, so no pin of it is written to
    · rw [PinBank.written_of_not_lt hpin]
      refine hpins.of_not_written fun n hn hwritten => hpin ?_
      have hplace : (c.inv.numOrZero 1).toInt = n := hwritten.2
      rw [hpins.count_eq, pinOf_lt_iff]
      omega
  · rw [if_neg hname]
    exact hpins.of_not_written fun _ _ hwritten => hname hwritten.1

theorem Bytes.next (hbytes : Bytes h.storage size past) (c : Call) :
    Bytes (c.next h).storage size (c :: past) := by
  rw [Call.next, c.acts.storage, storageAfter]
  by_cases hname : c.name = "eewrite"
  · rw [if_pos hname]
    by_cases haddress : addressOf (c.inv.numOrZero 1) < h.storage.size
    · have hin : addressOf (c.inv.numOrZero 1) < size.toNat := hbytes.size_eq ▸ haddress
      have hplace := addressOf_of_nonneg ((addressOf_lt_iff _ _).mp hin).1
      rw [Storage.written_of_lt haddress]
      exact hbytes.of_written hname hplace.symm
    · rw [Storage.written_of_not_lt haddress]
      refine hbytes.of_not_written fun a ha hwritten => haddress ?_
      have hplace : (c.inv.numOrZero 1).toInt = a := hwritten.2
      rw [hbytes.size_eq, addressOf_lt_iff]
      omega
  · rw [if_neg hname]
    exact hbytes.of_not_written fun _ _ hwritten => hname hwritten.1

theorem levels_after (hcount : count ≤ PinBank.most) (hpins : Levels h.pins count [])
    (past : List Call) : Levels (after h past).pins count past := by
  induction past with
  | nil => exact hpins
  | cons c past ih => exact ih.next hcount c

theorem bytes_after (hbytes : Bytes h.storage size []) (past : List Call) :
    Bytes (after h past).storage size past := by
  induction past with
  | nil => exact hbytes
  | cons c past ih => exact ih.next c

theorem levels_low (count : UInt32) : Levels (.low count) (min count PinBank.most) [] :=
  ⟨rfl, fun n => by simp [levelWritten, lastWritten]⟩

theorem bytes_fresh (size : UInt64) : Bytes (.fresh size.toNat) size [] :=
  ⟨Storage.size_fresh _, fun a ha => by
    simp [Storage.fresh, byteWritten, lastWritten, ha]⟩

end Steps

/-- Why a call of a board with so many pins and bytes fails: the number of the pin or the address
that it names is none of those of the board. -/
inductive Call.Refused (c : Call) (count : UInt32) (size : UInt64) : HostError → Prop where
  | pin (hname : c.name ∈ pinFunctions) (hout : ¬ (0 ≤ c.place ∧ c.place < count.toNat)) :
    Refused c count size (.pinOutOfRange (pinOf (c.inv.numOrZero 1)) count)
  | address (hname : c.name ∈ storeFunctions) (hout : ¬ (0 ≤ c.place ∧ c.place < size.toNat)) :
    Refused c count size (.addressOutOfRange (addressOf (c.inv.numOrZero 1)) size.toNat)

theorem Call.answer_eq_error_iff {h : Host} {count : UInt32} {size : UInt64}
    (hcount : h.pins.count = count) (hsize : h.storage.size = size.toNat) (c : Call)
    (e : HostError) : c.answer h = .error e ↔ c.Refused count size e := by
  rw [Call.answer, c.acts.fails, Refuses, hcount, hsize, pinOf_lt_iff, addressOf_lt_iff]
  constructor
  · rintro (⟨hname, hout, rfl⟩ | ⟨hname, hout, rfl⟩)
    · exact .pin hname hout
    · exact .address hname hout
  · rintro (⟨hname, hout⟩ | ⟨hname, hout⟩)
    · exact .inl ⟨hname, hout, rfl⟩
    · exact .inr ⟨hname, hout, rfl⟩

/-- A call that fails leaves the pins and the storage alone. -/
theorem after_of_refuses {name : String} {inv : Invocation} {h : Host} {e : HostError}
    (hrefuses : Refuses name inv h e) :
    pinsAfter name inv h = h.pins ∧ storageAfter name inv h = h.storage := by
  constructor
  · rw [pinsAfter]
    split_ifs with hname
    · subst hname
      exact PinBank.written_of_not_lt ((refuses_pin (by decide) _ _ _).mp hrefuses).1 _
    · rfl
  · rw [storageAfter]
    split_ifs with hname
    · subst hname
      exact Storage.written_of_not_lt ((refuses_address (by decide) _ _ _).mp hrefuses).1 _
    · rfl

/-- Only a successful write changes the pins or the storage, and each only one of them. -/
theorem Call.next_eq (c : Call) (h : Host) :
    (c.name ≠ "digitalWrite" ∨ (∃ e, c.answer h = .error e) → (c.next h).pins = h.pins) ∧
      (c.name ≠ "eewrite" ∨ (∃ e, c.answer h = .error e) → (c.next h).storage = h.storage) := by
  rw [Call.next, c.acts.pins, c.acts.storage]
  refine ⟨fun hc => ?_, fun hc => ?_⟩
  · rcases hc with hname | ⟨e, he⟩
    · rw [pinsAfter, if_neg hname]
    · exact (after_of_refuses ((c.acts.fails _ _ _).mp he)).1
  · rcases hc with hname | ⟨e, he⟩
    · rw [storageAfter, if_neg hname]
    · exact (after_of_refuses ((c.acts.fails _ _ _).mp he)).2

/-- What reading a pin of the board answers. -/
theorem Levels.answer_digitalRead {h : Host} {count : UInt32} {past : List Call}
    (hpins : Levels h.pins count past) (hcount : count ≤ PinBank.most) {c : Call}
    (hname : c.name = "digitalRead") (hpin : 0 ≤ c.place ∧ c.place < count.toNat) :
    c.answer h = .ok (if (lastWritten "digitalWrite" c.place past).getD 0 = 0 then 0 else 1) := by
  have hlt : pinOf (c.inv.numOrZero 1) < h.pins.count :=
    hpins.count_eq ▸ (pinOf_lt_iff _ _).mpr hpin
  have hplace : ((pinOf (c.inv.numOrZero 1)).toNat : Int) = c.place := pinOf_of_nonneg hpin.1
  have hnat : (pinOf (c.inv.numOrZero 1)).toNat < count.toNat := by omega
  rw [c.answer_digitalRead hname, PinBank.read_of_lt (hpins.count_eq ▸ hcount) hlt, hpins.level_eq,
    decide_eq_true hnat, Bool.true_and, levelWritten, hplace]
  by_cases hzero : (lastWritten "digitalWrite" c.place past).getD 0 = 0 <;> simp [hzero, Except.map]

/-- What reading an address of the board answers. -/
theorem Bytes.answer_eeread {h : Host} {size : UInt64} {past : List Call}
    (hbytes : Bytes h.storage size past) {c : Call} (hname : c.name = "eeread")
    (haddress : 0 ≤ c.place ∧ c.place < size.toNat) :
    c.answer h = .ok (.ofInt
      (((lastWritten "eewrite" c.place past).map fun value => value.toInt % 256).getD 255)) := by
  have hplace : ((addressOf (c.inv.numOrZero 1) : Nat) : Int) = c.place :=
    addressOf_of_nonneg haddress.1
  have hlt : addressOf (c.inv.numOrZero 1) < size.toNat := by omega
  rw [c.answer_eeread hname, Storage.read_of_lt (hbytes.byte_eq _ hlt), byteWritten, hplace]
  cases lastWritten "eewrite" c.place past with
  | none => rfl
  | some value =>
      rw [Option.map_some, Option.map_some, Option.getD_some, Option.getD_some, ← toNat_lowBits]
      rfl

/-- **The board keeps two maps**, from its pins to levels and from its addresses to bytes, whatever
calls of its functions have been made and with whatever arguments.

A call fails exactly if the number of the pin or the address that it names is none of those of the
board.  Only a `digitalWrite` that does not fail changes the pins, and only such an `eewrite` changes
the storage.  Reading a pin tells whether the last value written to it was another than zero; reading
an address answers the last value written to it modulo 256, and 255 where there was none.  (A write to
a place of the board does not fail, so these are the last writes that succeeded.)  No bit of the mask
is set that is no pin's. -/
theorem calls_keep_two_maps (h : Host) (count : UInt32) (size : UInt64) (past : List Call) :
    let board := after { h with pins := .low count, storage := .fresh size.toNat } past
    let pins := min count PinBank.most
    (∀ (c : Call) e, c.answer board = .error e ↔ c.Refused pins size e) ∧
    (∀ c : Call, c.name ≠ "digitalWrite" ∨ (∃ e, c.answer board = .error e) →
      (c.next board).pins = board.pins) ∧
    (∀ c : Call, c.name ≠ "eewrite" ∨ (∃ e, c.answer board = .error e) →
      (c.next board).storage = board.storage) ∧
    (∀ c : Call, c.name = "digitalRead" → 0 ≤ c.place ∧ c.place < pins.toNat →
      c.answer board
        = .ok (if (lastWritten "digitalWrite" c.place past).getD 0 = 0 then 0 else 1)) ∧
    (∀ c : Call, c.name = "eeread" → 0 ≤ c.place ∧ c.place < size.toNat →
      c.answer board = .ok (.ofInt
        (((lastWritten "eewrite" c.place past).map fun value => value.toInt % 256).getD 255))) ∧
    ∀ n, pins.toNat ≤ n → board.pins.mask.toNat.testBit n = false := by
  intro board pins
  have hcount : pins ≤ PinBank.most := PinBank.count_low_le count
  have hpins : Levels board.pins pins past := levels_after hcount (levels_low count) past
  have hbytes : Bytes board.storage size past := bytes_after (bytes_fresh size) past
  refine ⟨fun c e => c.answer_eq_error_iff hpins.count_eq hbytes.size_eq e,
    fun c => (c.next_eq board).1, fun c => (c.next_eq board).2,
    fun c hname hpin => hpins.answer_digitalRead hcount hname hpin,
    fun c hname haddress => hbytes.answer_eeread hname haddress, fun n hn => ?_⟩
  have hlevel := hpins.level_eq n
  rwa [decide_eq_false (Nat.not_lt.mpr hn), Bool.false_and] at hlevel

end Hardware

end BoardConsole
