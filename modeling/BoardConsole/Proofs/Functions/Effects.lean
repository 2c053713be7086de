import BoardConsole.Functions.Standard
import BoardConsole.Proofs.Console.Keeps
import BoardConsole.Proofs.Pins

/-!
# Functions — What each of them does

What a function of the board does is said by its name (`Acts`).  Five of them ask for a pin or an
address and fail where it is not there, two of these write to it, and the others never fail and
write nothing.  The functions of the operating system leave the storage and the clock alone, whatever
its shell does (`System.all_rest`).

* `FunctionTable.writesOnlyBy_standardThrough`: of all the functions there are, only `eewrite`
  writes to the storage.
* `FunctionTable.steady_standardThrough`: none turns the clock back.
-/

namespace BoardConsole

/-- What an action answers: its value, or its error. -/
def answer {ε σ α : Type} : EStateM.Result ε σ α → Except ε α
  | .ok a _    => .ok a
  | .error e _ => .error e

namespace Storage
variable {s : Storage} {address : Nat} {e : HostError}

theorem read_of_lt {b : UInt8} (h : s.bytes[address]? = some b) : s.read address = .ok b := by
  rw [read, h]

theorem read_eq_error_iff :
    s.read address = .error e ↔ ¬ address < s.size ∧ e = .addressOutOfRange address s.size := by
  rw [read, size]
  by_cases h : address < s.bytes.length
  · simp [h]
  · simp [h, eq_comm]

theorem write_eq_error_iff {b : UInt8} :
    s.write address b = .error e ↔ ¬ address < s.size ∧ e = .addressOutOfRange address s.size := by
  rw [write]
  by_cases h : address < s.size
  · simp [h]
  · simp [h, eq_comm]

/-- The storage after a byte was written; as it was where there is no such address. -/
def written (s : Storage) (address : Nat) (b : UInt8) : Storage :=
  (s.write address b).toOption.getD s

theorem written_of_lt (h : address < s.size) (b : UInt8) :
    s.written address b = ⟨s.bytes.set address b⟩ := by
  rw [written, write, if_pos h]
  rfl

/-- A write to an address that is not there changes nothing. -/
theorem written_of_not_lt (h : ¬ address < s.size) (b : UInt8) : s.written address b = s := by
  rw [written, write, if_neg h]
  rfl

end Storage

/-- A function leaves the storage alone, with the listing at hand. -/
def LeavesStorage (f : Function) : Prop :=
  ∀ args s, Keeps (fun h : Host => h.storage = s) (f ⟨args, Host.printListing⟩)

theorem LeavesStorage.keeps {f : Function} (h : LeavesStorage f) (J : Storage → Prop) :
    Console.FunctionKeeps J f := by
  intro args host hJ
  have hend := h args host.storage host rfl
  dsimp only at hend ⊢
  rwa [hend]

/-- A function does not turn the clock back, with the listing at hand. -/
def Steady (f : Function) : Prop :=
  ∀ args m, Keeps (fun h : Host => m ≤ h.clock.latest) (f ⟨args, Host.printListing⟩)

/-- No function of the table writes to the storage, save that of a name. -/
def FunctionTable.WritesOnlyBy (t : FunctionTable) (writer : String) : Prop :=
  ∀ name f, t.lookup? name = some f → name ≠ writer → LeavesStorage f

/-- No function of the table turns the clock back. -/
def FunctionTable.Steady (t : FunctionTable) : Prop :=
  ∀ name f, t.lookup? name = some f → BoardConsole.Steady f

theorem Clock.latest_le_read (c : Clock) : c.latest ≤ c.read.1 := by
  show c.latest ≤ if c.latest ≤ _ then _ else c.latest
  split
  · assumption
  · exact UInt64.le_refl _

namespace Host

theorem printListing_clock (h : Host) : h.printListing.clock = h.clock := by
  unfold printListing
  generalize h.storage.entries = entries
  induction entries generalizing h with
  | nil => rfl
  | cons entry entries ih => exact ih (h.emitLine _)

/-- Saving writes to a file: the storage and the clock are as the listing leaves them. -/
theorem save_rests (h : Host) {listing : Host → Host}
    (hlisting : ∀ h, (listing h).storage = h.storage ∧ (listing h).clock = h.clock)
    (name : String) :
    (h.save listing name).2.storage = h.storage ∧ (h.save listing name).2.clock = h.clock := by
  unfold save saveThrough
  split
  · exact ⟨rfl, rfl⟩
  · exact hlisting _

/-- Waiting leaves the pins and the storage alone, and does not turn the clock back. -/
theorem delay_rests (h : Host) (d : Duration) :
    (h.delay d).pins = h.pins ∧ (h.delay d).storage = h.storage ∧
      h.clock.latest ≤ (h.delay d).clock.latest := by
  unfold delay
  split <;> exact ⟨rfl, rfl, UInt64.le_refl _⟩

end Host

/-! ### The operating system -/

namespace System

variable (shell : Volume → String → Shell.Result)

theorem system_rests (inv : Invocation) (s : Storage) (c : Clock) :
    Keeps (fun h : Host => h.storage = s ∧ h.clock = c) (systemThrough shell inv) := by
  unfold systemThrough
  split
  · exact .pure _
  · split
    · exact .pure _
    · exact Keeps.get_bind fun h hrest => hrest

theorem save_rests (args : List Arg) (s : Storage) (c : Clock) :
    Keeps (fun h : Host => h.storage = s ∧ h.clock = c) (save ⟨args, Host.printListing⟩) := by
  intro h hrest
  obtain ⟨hstorage, hclock⟩ := h.save_rests
    (fun h => ⟨Console.printListing_storage h, h.printListing_clock⟩)
    ((Invocation.text? ⟨args, Host.printListing⟩ 1).getD h.defaultFile)
  exact ⟨hstorage.trans hrest.1, hclock.trans hrest.2⟩

/-- The functions of the operating system leave the storage and the clock alone. -/
theorem all_rest : ∀ e ∈ allThrough shell, ∀ args s c,
    Keeps (fun h : Host => h.storage = s ∧ h.clock = c) (e.2 ⟨args, Host.printListing⟩) := by
  simp only [allThrough, List.forall_mem_cons]
  exact ⟨fun _ _ _ => system_rests shell _ _ _, fun _ _ _ _ hrest => hrest,
    fun _ _ _ => save_rests _ _ _, by simp⟩

theorem all_leaveStorage : ∀ e ∈ allThrough shell, LeavesStorage e.2 := fun e he args s h hs =>
  (all_rest shell e he args s h.clock h ⟨hs, rfl⟩).1

theorem all_steady : ∀ e ∈ allThrough shell, Steady e.2 := fun e he args m h hm => by
  show m ≤ (endState (e.2 _ h)).clock.latest
  rw [(all_rest shell e he args h.storage h.clock h ⟨rfl, rfl⟩).2]
  exact hm

end System

/-! ### The board -/

namespace Hardware

/-- The functions of which the first argument names a pin. -/
def pinFunctions : List String := ["pinMode", "digitalRead", "digitalWrite"]

/-- The functions of which the first argument names an address. -/
def storeFunctions : List String := ["eeread", "eewrite"]

/-- The pins after a call: only `digitalWrite` writes to them. -/
def pinsAfter (name : String) (inv : Invocation) (h : Host) : PinBank :=
  if name = "digitalWrite" then
    h.pins.written (pinOf (inv.numOrZero 1)) (inv.numOrZero 2 != 0)
  else h.pins

/-- The storage after a call: only `eewrite` writes to it. -/
def storageAfter (name : String) (inv : Invocation) (h : Host) : Storage :=
  if name = "eewrite" then
    h.storage.written (addressOf (inv.numOrZero 1)) (inv.numOrZero 2).toUInt32.toUInt8
  else h.storage

/-- Why a call fails: what its first argument names is not there. -/
def Refuses (name : String) (inv : Invocation) (h : Host) (e : HostError) : Prop :=
  let pin := pinOf (inv.numOrZero 1)
  let address := addressOf (inv.numOrZero 1)
  (name ∈ pinFunctions ∧ ¬ pin < h.pins.count ∧ e = .pinOutOfRange pin h.pins.count) ∨
    (name ∈ storeFunctions ∧ ¬ address < h.storage.size ∧
      e = .addressOutOfRange address h.storage.size)

/-- What a function of a name does to the pins, the storage and the clock, and when it fails. -/
structure Acts (name : String) (f : Function) : Prop where
  pins    : ∀ inv h, (endState (f inv h)).pins = pinsAfter name inv h
  storage : ∀ inv h, (endState (f inv h)).storage = storageAfter name inv h
  clock   : ∀ inv h, h.clock.latest ≤ (endState (f inv h)).clock.latest
  fails   : ∀ inv h e, answer (f inv h) = .error e ↔ Refuses name inv h e

/-- Functions that ask for nothing never fail, and leave the pins and the storage alone. -/
theorem acts_of_ok {name : String} {f : Function}
    (hname : name ∉ pinFunctions ∧ name ∉ storeFunctions)
    (hf : ∀ inv h, ∃ n h', f inv h = .ok n h' ∧ h'.pins = h.pins ∧ h'.storage = h.storage ∧
      h.clock.latest ≤ h'.clock.latest) : Acts name f where
  pins inv h := by
    obtain ⟨n, h', hrun, hpins, -⟩ := hf inv h
    have hne : name ≠ "digitalWrite" := fun heq => hname.1 (by simp [heq, pinFunctions])
    rw [hrun, pinsAfter, if_neg hne]
    exact hpins
  storage inv h := by
    obtain ⟨n, h', hrun, -, hstorage, -⟩ := hf inv h
    have hne : name ≠ "eewrite" := fun heq => hname.2 (by simp [heq, storeFunctions])
    rw [hrun, storageAfter, if_neg hne]
    exact hstorage
  clock inv h := by
    obtain ⟨n, h', hrun, -, -, hclock⟩ := hf inv h
    rw [hrun]
    exact hclock
  fails inv h e := by
    obtain ⟨n, h', hrun, -⟩ := hf inv h
    simp [hrun, answer, Refuses, hname.1, hname.2]

/-- Where only asking can fail, an action fails as asking does. -/
theorem answer_asking {α : Type} {k : α → HostAction Int32} {h : Host}
    (hk : ∀ a, ∃ n h', k a h = .ok n h') (asked : Except HostError α) (e : HostError) :
    answer ((ofExcept asked >>= k : HostAction Int32) h) = .error e ↔ asked = .error e := by
  cases asked with
  | error e' =>
      have hbind : (ofExcept (.error e') >>= k : HostAction Int32) h = .error e' h := rfl
      simp [hbind, answer]
  | ok a =>
      obtain ⟨n, h', hrun⟩ := hk a
      have hbind : (ofExcept (.ok a) >>= k : HostAction Int32) h = .ok n h' := hrun
      simp [hbind, answer]

/-- Asking for something and answering a number writes nothing. -/
theorem endState_asking {α : Type} (value : α → Int32) (asked : Except HostError α) (h : Host) :
    endState ((ofExcept asked >>= fun a => pure (value a) : HostAction Int32) h) = h := by
  cases asked <;> rfl

theorem answer_value {α : Type} (value : α → Int32) (asked : Except HostError α) (h : Host) :
    answer ((ofExcept asked >>= fun a => pure (value a) : HostAction Int32) h) = asked.map value := by
  cases asked <;> rfl

theorem refuses_pin {name : String} (hname : name ∈ pinFunctions ∧ name ∉ storeFunctions)
    (inv : Invocation) (h : Host) (e : HostError) :
    Refuses name inv h e ↔ ¬ pinOf (inv.numOrZero 1) < h.pins.count ∧
      e = .pinOutOfRange (pinOf (inv.numOrZero 1)) h.pins.count := by
  simp [Refuses, hname.1, hname.2]

theorem refuses_address {name : String} (hname : name ∉ pinFunctions ∧ name ∈ storeFunctions)
    (inv : Invocation) (h : Host) (e : HostError) :
    Refuses name inv h e ↔ ¬ addressOf (inv.numOrZero 1) < h.storage.size ∧
      e = .addressOutOfRange (addressOf (inv.numOrZero 1)) h.storage.size := by
  simp [Refuses, hname.1, hname.2]

/-- Functions that ask for something and answer a number. -/
theorem acts_of_asks {α : Type} {name : String} {f : Function}
    (hname : name ≠ "digitalWrite" ∧ name ≠ "eewrite")
    (ask : Invocation → Host → Except HostError α) (value : α → Int32)
    (hf : ∀ inv h, f inv h = (ofExcept (ask inv h) >>= fun a => pure (value a) : HostAction Int32) h)
    (hask : ∀ inv h e, ask inv h = .error e ↔ Refuses name inv h e) : Acts name f where
  pins inv h    := by rw [hf, endState_asking, pinsAfter, if_neg hname.1]
  storage inv h := by rw [hf, endState_asking, storageAfter, if_neg hname.2]
  clock inv h   := by
    rw [hf, endState_asking]
    exact UInt64.le_refl _
  fails inv h e := by
    rw [hf, answer_asking (k := fun a => pure (value a)) fun a => ⟨value a, h, rfl⟩]
    exact hask inv h e

theorem pinMode_acts : Acts "pinMode" pinMode :=
  acts_of_asks (by decide) (fun inv h => h.pins.setMode (pinOf (inv.numOrZero 1))) (fun _ => 0)
    (fun _ _ => rfl) fun inv h e => PinBank.error_iff.trans (refuses_pin (by decide) inv h e).symm

theorem digitalRead_acts : Acts "digitalRead" digitalRead :=
  acts_of_asks (by decide) (fun inv h => h.pins.read (pinOf (inv.numOrZero 1)))
    (fun high => if high = true then 1 else 0) (fun _ _ => rfl)
    fun inv h e => PinBank.error_iff.trans (refuses_pin (by decide) inv h e).symm

theorem eeread_acts : Acts "eeread" eeread :=
  acts_of_asks (by decide) (fun inv h => h.storage.read (addressOf (inv.numOrZero 1)))
    (fun b => Int32.ofNat b.toNat) (fun _ _ => rfl)
    fun inv h e => Storage.read_eq_error_iff.trans (refuses_address (by decide) inv h e).symm

theorem digitalWrite_acts : Acts "digitalWrite" digitalWrite := by
  -- the write alone can fail, and each clause is read off its result
  have hrun : ∀ inv h, digitalWrite inv h =
      (ofExcept (h.pins.write (pinOf (inv.numOrZero 1)) (inv.numOrZero 2 != 0)) >>= fun pins => do
        set { h with pins }
        return 0 : HostAction Int32) h := fun _ _ => rfl
  refine ⟨fun inv h => ?_, fun inv h => ?_, fun inv h => ?_, fun inv h e => ?_⟩
  · rw [hrun, pinsAfter, if_pos rfl, PinBank.written]
    cases h.pins.write (pinOf (inv.numOrZero 1)) (inv.numOrZero 2 != 0) <;> rfl
  · rw [hrun, storageAfter, if_neg (by decide)]
    cases h.pins.write (pinOf (inv.numOrZero 1)) (inv.numOrZero 2 != 0) <;> rfl
  · rw [hrun]
    cases h.pins.write (pinOf (inv.numOrZero 1)) (inv.numOrZero 2 != 0) <;> exact UInt64.le_refl _
  · rw [hrun, answer_asking fun pins => ⟨0, { h with pins }, rfl⟩, refuses_pin (by decide)]
    exact PinBank.error_iff

theorem eewrite_acts : Acts "eewrite" eewrite := by
  have hrun : ∀ inv h, eewrite inv h =
      (ofExcept (h.storage.write (addressOf (inv.numOrZero 1))
          (inv.numOrZero 2).toUInt32.toUInt8) >>= fun storage => do
        set { h with storage }
        return 0 : HostAction Int32) h := fun _ _ => rfl
  refine ⟨fun inv h => ?_, fun inv h => ?_, fun inv h => ?_, fun inv h e => ?_⟩
  · rw [hrun, pinsAfter, if_neg (by decide)]
    cases h.storage.write (addressOf (inv.numOrZero 1)) (inv.numOrZero 2).toUInt32.toUInt8 <;> rfl
  · rw [hrun, storageAfter, if_pos rfl, Storage.written]
    cases h.storage.write (addressOf (inv.numOrZero 1)) (inv.numOrZero 2).toUInt32.toUInt8 <;> rfl
  · rw [hrun]
    cases h.storage.write (addressOf (inv.numOrZero 1)) (inv.numOrZero 2).toUInt32.toUInt8 <;>
      exact UInt64.le_refl _
  · rw [hrun, answer_asking fun storage => ⟨0, { h with storage }, rfl⟩,
      refuses_address (by decide)]
    exact Storage.write_eq_error_iff

/-- Waiting for as long as the arguments say. -/
theorem acts_delay {name : String} (hname : name ∉ pinFunctions ∧ name ∉ storeFunctions)
    (d : Invocation → Duration) :
    Acts name fun inv => do
      modify (·.delay (d inv))
      return 0 :=
  acts_of_ok hname fun inv h => ⟨0, h.delay (d inv), rfl, h.delay_rests (d inv)⟩

theorem acts_const {name : String} (hname : name ∉ pinFunctions ∧ name ∉ storeFunctions)
    (n : Int32) : Acts name fun _ => return n :=
  acts_of_ok hname fun _ h => ⟨n, h, rfl, rfl, rfl, UInt64.le_refl _⟩

theorem millis_acts : Acts "millis" millis :=
  acts_of_ok (by decide) fun _ h =>
    ⟨h.readClock.1.toUInt32.toInt32, h.readClock.2, rfl, rfl, rfl, h.clock.latest_le_read⟩

theorem delay_acts : Acts "delay" delay :=
  acts_delay (by decide) fun inv => ⟨lengthOf (inv.numOrZero 1) * Duration.millisecond⟩

theorem delayMicroseconds_acts : Acts "delayMicroseconds" delayMicroseconds :=
  acts_delay (by decide) fun inv => Duration.ofMicros (lengthOf (inv.numOrZero 1))

theorem all_act : ∀ e ∈ all, Acts e.1 e.2 := by
  simp only [all, List.forall_mem_cons]
  exact ⟨pinMode_acts, digitalRead_acts, digitalWrite_acts, acts_const (by decide) _,
    acts_const (by decide) _, acts_const (by decide) _, millis_acts, delay_acts,
    delayMicroseconds_acts, eeread_acts, eewrite_acts, acts_const (by decide) _, by simp⟩

theorem all_leaveStorage : ∀ e ∈ all, e.1 ≠ "eewrite" → LeavesStorage e.2 :=
  fun e he hname _ _ h hs => by
    show (endState (e.2 _ h)).storage = _
    rw [(all_act e he).storage, storageAfter, if_neg hname]
    exact hs

theorem leavesStorage_const (n : Int32) : LeavesStorage fun _ => return n := fun _ _ _ hs => hs

theorem all_steady : ∀ e ∈ all, Steady e.2 := fun e he _ _ h hm =>
  UInt64.le_trans hm ((all_act e he).clock _ h)

end Hardware

/-! ### The standard table -/

namespace FunctionTable

theorem mem_of_lookup? {t : FunctionTable} {name : String} {f : Function}
    (h : t.lookup? name = some f) : (name, f) ∈ t.entries := by
  obtain ⟨front, back, heq, -⟩ := List.lookup_eq_some_iff.mp h
  rw [heq]
  exact List.mem_append_right _ List.mem_cons_self

theorem place_subset (name : String) (f : Function) (es : List (String × Function)) :
    ∀ e ∈ place name f es, e = (name, f) ∨ e ∈ es := by
  induction es with
  | nil => simp [place]
  | cons e es ih =>
      intro e' he'
      unfold place at he'
      split at he'
      · rcases List.mem_cons.mp he' with h | h
        · exact .inl h
        · exact .inr (List.mem_cons_of_mem _ h)
      split at he'
      · rcases List.mem_cons.mp he' with h | h
        · exact .inl h
        · exact .inr h
      · rcases List.mem_cons.mp he' with rfl | h
        · exact .inr List.mem_cons_self
        · exact (ih e' h).imp_right (List.mem_cons_of_mem _)

theorem mem_registerAll {t : FunctionTable} {fs : List (String × Function)}
    {e : String × Function} (h : e ∈ (t.registerAll fs).entries) : e ∈ fs ∨ e ∈ t.entries := by
  unfold registerAll at h
  induction fs generalizing t with
  | nil => exact .inr h
  | cons f fs ih =>
      rcases ih h with hmem | hmem
      · exact .inl (List.mem_cons_of_mem _ hmem)
      · rcases place_subset f.1 f.2 t.entries e hmem with rfl | hmem
        · exact .inl List.mem_cons_self
        · exact .inr hmem

variable (shell : Volume → String → Shell.Result) {name : String} {f : Function}

/-- Every function there is belongs to the system or to the board. -/
theorem mem_of_standardThrough (h : (standardThrough shell).lookup? name = some f) :
    (name, f) ∈ System.allThrough shell ∨ (name, f) ∈ Hardware.all := by
  rcases mem_registerAll (mem_of_lookup? h) with hboard | hmem
  · exact .inr hboard
  rcases mem_registerAll hmem with hsystem | hempty
  · exact .inl hsystem
  · exact absurd hempty List.not_mem_nil

/-- **Only `eewrite` writes to the storage**, of all the functions there are. -/
theorem writesOnlyBy_standardThrough : (standardThrough shell).WritesOnlyBy "eewrite" := by
  intro name f hf hname
  rcases mem_of_standardThrough shell hf with hsystem | hboard
  · exact System.all_leaveStorage shell _ hsystem
  · exact Hardware.all_leaveStorage _ hboard hname

/-- **Every function there is leaves the clock running on.** -/
theorem steady_standardThrough : (standardThrough shell).Steady := by
  intro name f hf
  rcases mem_of_standardThrough shell hf with hsystem | hboard
  · exact System.all_steady shell _ hsystem
  · exact Hardware.all_steady _ hboard

end FunctionTable

end BoardConsole
