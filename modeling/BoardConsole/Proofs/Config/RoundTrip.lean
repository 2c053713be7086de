import BoardConsole.Config.Read
import BoardConsole.Config.Write
import BoardConsole.Proofs.Time.DurationText
import BoardConsole.Proofs.Toml.Document

/-!
# Configuration — Written and read back

* `read_document`: parts that are written one after the other are a document of their tables.
* `ofToml_toToml`: a configuration whose numbers and durations can be written is written, and what
  is written is read as the same configuration, or refused where that is out of range.

A part leads a document on by its header and then by its settings (`leads_part`), whatever stood
before it; the settings of a configuration are then made from its tables one after the other.  What
is made of one setting (`set_written`) adds up to all of them (`ofEntries_written`).
-/

namespace BoardConsole.Config
open Toml (Value Entries)
open Toml.Document (IsBare Written State Leads leads_blank leads_header leads_setting
  written_quote written_number)

/-! ### Parts as a document -/

/-- A setting that is written out: its key, its text, the value that the text stands for, and what it
makes of a configuration. -/
structure Setting where
  key   : String
  text  : String
  value : Value
  put   : Config → Config

/-- A part that is written out. -/
structure Part where
  name     : String
  settings : List Setting

/-- The key needs no quotes, and the text is read as the value. -/
structure Setting.Sound (s : Setting) : Prop where
  bare    : IsBare s.key
  written : Written s.text.toList s.value

/-- The name needs no quotes, and no setting stands twice. -/
structure Part.Sound (p : Part) : Prop where
  bare     : IsBare p.name
  settings : ∀ s ∈ p.settings, s.Sound
  distinct : (p.settings.map (·.key)).Nodup

/-- The lines of a part. -/
def Part.text (p : Part) : String := partText p.name (p.settings.map fun s => (s.key, s.text))

/-- The entries of the table of a part. -/
def Part.entries (p : Part) : Entries := p.settings.map fun s => (s.key, s.value)

/-- What the settings of a part make of a configuration, one after the other. -/
def Part.put (p : Part) (base : Config) : Config := p.settings.foldl (fun c s => s.put c) base

/-- The table of a part, under its name. -/
def Part.entry (p : Part) : String × Value := (p.name, .table .header p.entries)

theorem lookup_eq_none {es : Entries} {key : String} (h : key ∉ es.map (·.1)) :
    es.lookup key = none := by
  rw [List.lookup_eq_none_iff]
  intro e he
  exact bne_iff_ne.2 fun hkey => h (hkey ▸ List.mem_map_of_mem he)

theorem leads_settings {es : Entries} {name : String} (hname : es.lookup name = none)
    {settings : List Setting} (hsound : ∀ s ∈ settings, s.Sound) (done : Entries)
    (hdistinct : (done.map (·.1) ++ settings.map (·.key)).Nodup) :
    Leads ⟨es ++ [(name, .table .header done)], [name]⟩
      (settings.flatMap fun s => (settingLine s.key s.text).toList)
      ⟨es ++ [(name, .table .header (done ++ settings.map fun s => (s.key, s.value)))],
        [name]⟩ := by
  induction settings generalizing done with
  | nil => simpa using Leads.refl _
  | cons s settings ih =>
      rw [List.forall_mem_cons] at hsound
      have hkey : s.key ∉ done.map (·.1) := fun hmem =>
        (List.nodup_append.1 hdistinct).2.2 _ hmem _ List.mem_cons_self rfl
      have hfirst := leads_setting hsound.1.bare hname (lookup_eq_none hkey) hsound.1.written
      have hrest := ih hsound.2 (done ++ [(s.key, s.value)]) (by simpa using hdistinct)
      simpa [settingLine] using hfirst.trans hrest

theorem toList_text (p : Part) : p.text.toList = '[' :: (p.name.toList ++ [']', '\n'])
    ++ p.settings.flatMap fun s => (settingLine s.key s.text).toList := by
  simp [Part.text, partText, String.toList_join, List.flatMap_map]

theorem leads_part {es : Entries} {p : Part} (hp : p.Sound) (hname : es.lookup p.name = none)
    (header : List String) :
    Leads ⟨es, header⟩ p.text.toList ⟨es ++ [p.entry], [p.name]⟩ := by
  have hsettings := leads_settings hname hp.settings [] (by simpa using hp.distinct)
  rw [toList_text]
  exact (leads_header hp.bare hname header).trans hsettings

theorem leads_parts {ps : List Part} (hps : ∀ p ∈ ps, p.Sound) (es : Entries)
    (hdistinct : (es.map (·.1) ++ ps.map (·.name)).Nodup) (header : List String) :
    ∃ header', Leads ⟨es, header⟩ ("\n".intercalate (ps.map Part.text)).toList
      ⟨es ++ ps.map Part.entry, header'⟩ := by
  -- Each part opens a table behind those of the parts before it.
  induction ps generalizing es header with
  | nil => exact ⟨header, by simpa using Leads.refl _⟩
  | cons p ps ih =>
      rw [List.forall_mem_cons] at hps
      have hname : p.name ∉ es.map (·.1) := fun hmem =>
        (List.nodup_append.1 hdistinct).2.2 _ hmem _ List.mem_cons_self rfl
      have hfirst := leads_part hps.1 (lookup_eq_none hname) header
      cases ps with
      | nil => exact ⟨[p.name], by simpa using hfirst⟩
      | cons q ps =>
          obtain ⟨header', hrest⟩ := ih hps.2 (es ++ [p.entry])
            (by simpa [Part.entry] using hdistinct) [p.name]
          have hall := hfirst.trans ((leads_blank _).trans hrest)
          refine ⟨header', ?_⟩
          simpa [String.intercalate_cons_cons] using hall

/-- **Parts one after the other** are a document of their tables. -/
theorem read_document {ps : List Part} (hps : ∀ p ∈ ps, p.Sound)
    (hdistinct : (ps.map (·.name)).Nodup) :
    Toml.Document.read ("\n".intercalate (ps.map Part.text)) = some (ps.map Part.entry) := by
  obtain ⟨header, hleads⟩ := leads_parts hps [] hdistinct []
  refine Toml.Document.read_of_leads ?_ hleads
  cases ps with
  | nil => simp
  | cons p ps =>
      cases ps <;>
        simp [String.intercalate_cons_cons, toList_text, Toml.Document.byteOrderMark]

/-! ### The parts of a configuration -/

/-- What a document and the words for a duration can hold. -/
structure Writable (c : Config) : Prop where
  storageSize         : c.storageSize < Nat.pow 2 63
  maxTasks            : c.maxTasks < Nat.pow 2 63
  maxLineLen          : c.maxLineLen < Nat.pow 2 63
  zeroDeadlineBackoff : c.scheduler.zeroDeadlineBackoff.fits = true
  idleInterval        : c.idleInterval.fits = true

/-- A setting with a text. -/
def inQuotes (key text : String) (put : Config → Config) : Setting :=
  ⟨key, quoted text, .string text, put⟩

/-- A setting with a number. -/
def inDigits (key : String) (n : Nat) (put : Config → Config) : Setting :=
  ⟨key, toString n, .integer n, put⟩

/-- The parts of a configuration. -/
def written (c : Config) : List Part :=
  [⟨"clock",
    [inQuotes "source" c.clockSource.name fun base => { base with clockSource := c.clockSource }]⟩,
   ⟨"scheduler",
    [inQuotes "thread_name" c.scheduler.threadName fun base =>
      { base with scheduler := { base.scheduler with threadName := c.scheduler.threadName } },
     inDigits "max_immediate_reruns" c.scheduler.maxImmediateReruns.toNat fun base =>
      { base with scheduler :=
        { base.scheduler with maxImmediateReruns := c.scheduler.maxImmediateReruns } },
     inQuotes "zero_deadline_backoff" c.scheduler.zeroDeadlineBackoff.text fun base =>
      { base with scheduler :=
        { base.scheduler with zeroDeadlineBackoff := c.scheduler.zeroDeadlineBackoff } }]⟩,
   ⟨"storage", [inDigits "size" c.storageSize fun base => { base with storageSize := c.storageSize }]⟩,
   ⟨"pins", [inDigits "count" c.pinCount.toNat fun base => { base with pinCount := c.pinCount }]⟩,
   ⟨"console",
    [inQuotes "idle_interval" c.idleInterval.text fun base =>
      { base with idleInterval := c.idleInterval },
     inDigits "max_tasks" c.maxTasks fun base => { base with maxTasks := c.maxTasks },
     inDigits "max_line_len" c.maxLineLen fun base => { base with maxLineLen := c.maxLineLen }]⟩,
   ⟨"save",
    [inQuotes "default_file" c.defaultFile fun base => { base with defaultFile := c.defaultFile }]⟩]

theorem toToml_eq {c : Config} (h : c.Writable) :
    c.toToml = some ("\n".intercalate (c.written.map Part.text)) := by
  rw [toToml, number?, if_pos h.storageSize, number?, if_pos h.maxTasks, number?,
    if_pos h.maxLineLen]
  rfl

/-- What is made of all settings of a configuration is the configuration. -/
theorem foldl_put_written (c base : Config) :
    c.written.foldl (fun base p => p.put base) base = c := by
  simp only [written, Part.put, inQuotes, inDigits, List.foldl_cons, List.foldl_nil]

/-! ### What is written is read -/

theorem written_quoted (text : String) : Written (quoted text).toList (.string text) := by
  have hquoted : (quoted text).toList = Toml.Quoted.quote text.toList := String.toList_ofList
  have hwritten := written_quote text.toList
  rwa [String.ofList_toList, ← hquoted] at hwritten

theorem written_digits {n : Nat} (h : n < Nat.pow 2 63) :
    Written (toString n).toList (.integer n) := by
  have hwritten := written_number h
  rwa [← Nat.toList_repr] at hwritten

theorem written_word (w : UInt32) : Written (toString w.toNat).toList (.integer w.toNat) :=
  written_digits (Nat.lt_trans w.toNat_lt (by decide))

/-- The names of parts and settings need no quotes, and the settings of a part have different
names. -/
theorem bare_of_keysOf? {name : String} {keys : List String} (h : keysOf? name = some keys) :
    IsBare name ∧ (∀ key ∈ keys, IsBare key) ∧ keys.Nodup := by
  unfold keysOf? at h
  split at h <;> cases h <;> decide

/-- The settings of a configuration are those of its parts, in the order of their positions. -/
theorem keysOf?_written (c : Config) :
    ∀ p ∈ c.written, keysOf? p.name = some (p.settings.map (·.key)) := by
  simp only [written, List.forall_mem_cons]
  exact ⟨rfl, rfl, rfl, rfl, rfl, rfl, by simp⟩

theorem written_settings {c : Config} (h : c.Writable) :
    ∀ p ∈ c.written, ∀ s ∈ p.settings, Written s.text.toList s.value := by
  simp only [written, inQuotes, inDigits, List.forall_mem_cons, List.not_mem_nil, false_implies,
    implies_true, and_true, written_quoted, written_word, written_digits h.storageSize,
    written_digits h.maxTasks, written_digits h.maxLineLen]

theorem sound_written {c : Config} (h : c.Writable) : ∀ p ∈ c.written, p.Sound := by
  intro p hp
  obtain ⟨hname, hkeys, hdistinct⟩ := bare_of_keysOf? (keysOf?_written c p hp)
  exact ⟨hname, fun s hs => ⟨hkeys _ (List.mem_map_of_mem hs), written_settings h p hp s hs⟩,
    hdistinct⟩

/-! ### What is read is made -/

theorem natOf_integer {bound n : Nat} (h : n < bound) : natOf bound (.integer n) = .ok n := by
  rw [natOf, if_pos ⟨Int.natCast_nonneg n, by exact_mod_cast h⟩, Int.toNat_natCast]

theorem word32Of_integer (w : UInt32) : word32Of (.integer w.toNat) = .ok w := by
  rw [word32Of, natOf_integer w.toNat_lt, Except.map, UInt32.ofNat_toNat]

theorem sizeOf_integer {n : Nat} (h : n < Nat.pow 2 63) : sizeOf (.integer n) = .ok n :=
  natOf_integer (Nat.lt_trans h (by decide))

theorem durationOf_text {d : Duration} (h : d.fits = true) :
    durationOf (.string d.text) = .ok d := by
  simp [durationOf, textOf, Duration.ofText_text h, bind, Except.bind]

theorem clockSourceOf_name (source : ClockSource) :
    clockSourceOf (.string source.name) = .ok source := by
  rw [clockSourceOf, clockSourceNamed, ClockSource.ofName?_name]

/-- **Each setting is made**, whatever the configuration was. -/
theorem set_written {c : Config} (h : c.Writable) :
    ∀ p ∈ c.written, ∀ s ∈ p.settings, ∀ base, set p.name s.key s.value base = .ok (s.put base) := by
  simp only [written, inQuotes, inDigits, List.forall_mem_cons, List.not_mem_nil, false_implies,
    implies_true, and_true, set, clockSourceOf_name, textOf, word32Of_integer,
    durationOf_text h.zeroDeadlineBackoff, durationOf_text h.idleInterval,
    sizeOf_integer h.storageSize, sizeOf_integer h.maxTasks, sizeOf_integer h.maxLineLen,
    Duration.ok_bind, pure, Except.pure]

theorem foldlM_ok {α β ε : Type} {f : β → α → Except ε β} {g : β → α → β} {l : List α}
    (h : ∀ a ∈ l, ∀ b, f b a = .ok (g b a)) (b : β) : l.foldlM f b = .ok (l.foldl g b) := by
  induction l generalizing b with
  | nil => rfl
  | cons a l ih =>
      rw [List.forall_mem_cons] at h
      rw [List.foldlM_cons, h.1, List.foldl_cons]
      exact ih h.2 _

/-- The settings of a part, made one after the other. -/
theorem setPart_entry {p : Part} (hkeys : keysOf? p.name = some (p.settings.map (·.key)))
    (hset : ∀ s ∈ p.settings, ∀ base, set p.name s.key s.value base = .ok (s.put base))
    (base : Config) : setPart base p.entry = .ok (p.put base) := by
  rw [setPart, Part.entry]
  dsimp only
  rw [hkeys]
  exact (List.foldlM_map ..).trans (foldlM_ok hset base)

/-- **The parts of a configuration make it**, whatever the defaults. -/
theorem ofEntries_written {c : Config} (h : c.Writable) :
    ofEntries (c.written.map Part.entry) = .ok c := by
  rw [ofEntries, List.foldlM_map, foldlM_ok fun p hp base =>
    setPart_entry (keysOf?_written c p hp) (set_written h p hp) base, foldl_put_written]

/-! ### The round trip -/

/-- **A configuration is written, and read back**: the same, or refused for what is out of range. -/
theorem ofToml_toToml {c : Config} (h : c.Writable) :
    ∃ text, c.toToml = some text ∧ ofToml text = c.validate.map fun _ => c := by
  refine ⟨_, toToml_eq h, ?_⟩
  have hnames : (c.written.map (·.name)).Nodup :=
    show ["clock", "scheduler", "storage", "pins", "console", "save"].Nodup by decide
  rw [ofToml, read_document (sound_written h) hnames]
  dsimp only
  rw [ofEntries_written h]
  change (c.validate >>= fun _ => pure c) = _
  cases c.validate <;> rfl

/-- Texts that need each of the forms in quotes, the longest duration and the largest numbers. -/
def awkward : Config where
  clockSource  := .wall
  scheduler    :=
    { threadName          := "say \"hi\"\\\n'''it's\x7f'''"
      maxImmediateReruns  := 4294967295
      zeroDeadlineBackoff := ⟨18446744073709551615999999999⟩ }
  storageSize  := 9223372036854775807
  pinCount     := 64
  idleInterval := ⟨0⟩
  maxTasks     := 0
  maxLineLen   := 9223372036854775807
  defaultFile  := "C:\\tmp\\"

theorem ofToml_toToml_awkward :
    awkward.Writable ∧ awkward.validate = .ok () ∧
      ∃ text, awkward.toToml = some text ∧ ofToml text = awkward.validate.map fun _ => awkward :=
  have h : awkward.Writable := ⟨by decide, by decide, by decide, by decide, by decide⟩
  ⟨h, by decide, ofToml_toToml h⟩

end BoardConsole.Config
