import BoardConsole.Proofs.Time.Timestamp
import BoardConsole.Time.Clock

/-!
# Time — What a clock reads

A clock is read, reset and delayed, in any order, on any time source.  The calls made so far are a
list, the last one first; they settle which sample each call takes (`TimeSource.shown`), which
sample the readings are counted from (`TimeSource.reference`) and which samples the readings since
then have taken (`TimeSource.seen`).

* `reading_is_running_maximum`: a reading is the largest of the milliseconds by which those samples
  exceed the reference.  So readings never fall between resets, and a reset clock reads as a new
  one on what the source shows from there on.

The clock itself keeps the reference and one number (`Tracks`), and every call keeps that up.
-/

namespace BoardConsole

namespace Timestamp

/-- The milliseconds by which a sample exceeds another, zero where it does not, up to the largest
word. -/
def elapsed (reference t : Timestamp) : Nat :=
  min ((t.value - reference.value) / Duration.millisecond) (UInt64.size - 1)

theorem toNat_toMillis_since {t reference : Timestamp} (ht : t.Normal) (hr : reference.Normal) :
    (t.since reference).toMillis.toNat = reference.elapsed t := by
  rw [toNat_toMillis, (value_since ht hr).1, elapsed]

end Timestamp

/-! ### Calls and samples -/

/-- A call of a clock. -/
inductive ClockCall where
  | read
  | reset
  | delay (d : Duration)
deriving DecidableEq, Repr

namespace Clock

/-- Makes one call. -/
def step (c : Clock) : ClockCall → Clock
  | .read    => c.read.2
  | .reset   => c.reset
  | .delay d => c.delay d

/-- The clock on a source after these calls, the last one first. -/
def after (source : TimeSource) : List ClockCall → Clock
  | []           => start source
  | call :: past => (after source past).step call

end Clock

namespace TimeSource

/-- The samples that calls take. -/
def taken : List ClockCall → Nat
  | []               => 0
  | .delay _ :: past => taken past
  | _ :: past        => taken past + 1

/-- How long calls wait. -/
def waited : List ClockCall → Duration
  | []               => .zero
  | .delay d :: past => (waited past).plus d
  | _ :: past        => waited past

section Samples
variable (source : TimeSource)

/-- The sample that the next call after these takes. The first one of all is that of the start. -/
def shown (past : List ClockCall) : Timestamp := source (taken past + 1) (waited past)

/-- The sample of the last reset, or of the start. -/
def reference : List ClockCall → Timestamp
  | []             => source 0 .zero
  | .reset :: past => source.shown past
  | _ :: past      => reference past

/-- The samples of the readings since the last reset, the last one first. -/
def seen : List ClockCall → List Timestamp
  | []               => []
  | .reset :: _      => []
  | .read :: past    => source.shown past :: seen past
  | .delay _ :: past => seen past

/-- What the source shows from the sample of the next call on. -/
def onward (past : List ClockCall) : TimeSource := fun n d =>
  source (n + (taken past + 1)) ((waited past).plus d)

/-- Every sample is a normal timestamp. -/
def Normal : Prop := ∀ n d, (source n d).Normal

end Samples

variable {source : TimeSource}

theorem normal_scripted {samples : List Timestamp} (h : ∀ t ∈ samples, t.Normal) :
    (scripted samples).Normal := by
  intro n _
  cases hn : samples[n]? with
  | some t =>
      simp only [scripted, hn, Option.getD_some]
      exact h t (List.mem_of_getElem? hn)
  | none =>
      simp only [scripted, hn, Option.getD_none, List.getLastD_eq_getLast?]
      cases hlast : samples.getLast? with
      | none   => decide
      | some t => exact h t (List.mem_of_getLast? hlast)

theorem Normal.shown (hs : source.Normal) (past : List ClockCall) : (source.shown past).Normal :=
  hs _ _

theorem Normal.reference (hs : source.Normal) (past : List ClockCall) :
    (source.reference past).Normal := by
  induction past with
  | nil => exact hs _ _
  | cons call past ih =>
      cases call with
      | reset => exact hs _ _
      | read | delay => exact ih

theorem Normal.onward (hs : source.Normal) (past : List ClockCall) : (source.onward past).Normal :=
  fun _ _ => hs _ _

variable (source)

/-- Calls without a reset leave the reference as it was, and add to what was seen. -/
theorem reference_append {later : List ClockCall} (h : .reset ∉ later) (past : List ClockCall) :
    source.reference (later ++ past) = source.reference past ∧
      source.seen past ⊆ source.seen (later ++ past) := by
  induction later with
  | nil => exact ⟨rfl, fun _ ht => ht⟩
  | cons call later ih =>
      rw [List.mem_cons, not_or] at h
      obtain ⟨href, hseen⟩ := ih h.2
      cases call with
      | reset => exact absurd rfl h.1
      | read  => exact ⟨href, fun _ ht => List.mem_cons_of_mem _ (hseen ht)⟩
      | delay => exact ⟨href, hseen⟩

theorem taken_append_reset (later past : List ClockCall) :
    taken (later ++ .reset :: past) = taken later + (taken past + 1) := by
  induction later with
  | nil => exact (Nat.zero_add _).symm
  | cons call later ih =>
      cases call with
      | read | reset => simp only [List.cons_append, taken, ih, Nat.add_right_comm]
      | delay => exact ih

theorem waited_append_reset (later past : List ClockCall) :
    waited (later ++ .reset :: past) = (waited past).plus (waited later) := by
  induction later with
  | nil => rfl
  | cons call later ih =>
      cases call with
      | read | reset => exact ih
      | delay => simp only [List.cons_append, waited, ih, Duration.plus, Nat.add_assoc]

/-- After a reset, calls take the samples that a new clock takes of the source from the reset on. -/
theorem shown_append_reset (later past : List ClockCall) :
    source.shown (later ++ .reset :: past) = (source.onward past).shown later := by
  rw [shown, taken_append_reset, waited_append_reset, shown, onward, Nat.add_right_comm]

theorem seen_append_reset (later past : List ClockCall) :
    source.reference (later ++ .reset :: past) = (source.onward past).reference later ∧
      source.seen (later ++ .reset :: past) = (source.onward past).seen later := by
  induction later with
  | nil =>
      refine ⟨?_, rfl⟩
      show source (taken past + 1) (waited past) = source (0 + (taken past + 1)) _
      rw [Nat.zero_add]
      rfl
  | cons call later ih =>
      cases call with
      | reset => exact ⟨source.shown_append_reset later past, rfl⟩
      | read  => exact ⟨ih.1, congrArg₂ List.cons (source.shown_append_reset later past) ih.2⟩
      | delay => exact ih

end TimeSource

/-! ### What a clock keeps of its past -/

theorem Millis.toNat_max (a b : Millis) : (max a b).toNat = max a.toNat b.toNat := by
  show (if a ≤ b then b else a).toNat = _
  split
  next h => exact (Nat.max_eq_right (UInt64.le_iff_toNat_le.1 h)).symm
  next h => exact (Nat.max_eq_left (Nat.le_of_not_le (mt UInt64.le_iff_toNat_le.2 h))).symm

namespace Clock
open TimeSource

theorem max?_cons_eq (n : Nat) (ns : List Nat) :
    (n :: ns).max? = some (max (ns.max?.getD 0) n) := by
  rw [List.max?_cons]
  cases ns.max? with
  | none   => simp
  | some m => simp [Nat.max_comm]

/-- The clock is where these calls have brought it. -/
structure Tracks (c : Clock) (source : TimeSource) (past : List ClockCall) : Prop where
  source_eq  : c.source = source
  taken_eq   : c.taken = TimeSource.taken past + 1
  waited_eq  : c.waited = TimeSource.waited past
  startup_eq : c.startup = source.reference past
  latest_eq  : c.latest.toNat =
    ((source.seen past).map (source.reference past).elapsed).max?.getD 0

variable {source : TimeSource} {past : List ClockCall} {c : Clock}

theorem Tracks.sample_eq (h : c.Tracks source past) :
    c.source c.taken c.waited = source.shown past := by
  rw [h.source_eq, h.taken_eq, h.waited_eq, shown]

/-- **A reading** is the largest of the milliseconds of its own sample and of the earlier ones. -/
theorem Tracks.read_eq (hs : source.Normal) (h : c.Tracks source past) :
    ((source.seen (.read :: past)).map (source.reference past).elapsed).max?
      = some c.read.1.toNat := by
  have hread : c.read.1 =
      max c.latest ((source.shown past).since (source.reference past)).toMillis := by
    rw [← h.sample_eq, ← h.startup_eq]
    rfl
  rw [hread, Millis.toNat_max, h.latest_eq,
    Timestamp.toNat_toMillis_since (hs.shown past) (hs.reference past), seen, List.map_cons,
    max?_cons_eq]

theorem tracks_start (source : TimeSource) : (start source).Tracks source [] :=
  ⟨rfl, rfl, rfl, rfl, rfl⟩

/-- One call more. -/
theorem Tracks.step (hs : source.Normal) (h : c.Tracks source past) (call : ClockCall) :
    (c.step call).Tracks source (call :: past) := by
  cases call with
  | read =>
      refine ⟨h.source_eq, congrArg (· + 1) h.taken_eq, h.waited_eq, h.startup_eq, ?_⟩
      have hread := h.read_eq hs
      rw [reference, hread]
      · rfl
      · simp
  | reset =>
      exact ⟨h.source_eq, congrArg (· + 1) h.taken_eq, h.waited_eq, h.sample_eq, rfl⟩
  | delay d =>
      exact ⟨h.source_eq, h.taken_eq, congrArg (·.plus d) h.waited_eq, h.startup_eq, h.latest_eq⟩

theorem tracks_after (hs : source.Normal) (past : List ClockCall) :
    (after source past).Tracks source past := by
  induction past with
  | nil => exact tracks_start source
  | cons call past ih => exact ih.step hs call

/-- **The clock reads the running maximum of elapsed time.**  Readings never fall between resets,
and a reset clock reads as a new one on what the source shows from there on. -/
theorem reading_is_running_maximum (hs : source.Normal) (past : List ClockCall) :
    ((source.seen (.read :: past)).map (source.reference past).elapsed).max?
        = some (after source past).read.1.toNat ∧
      (∀ later, .reset ∉ later →
        (after source past).read.1 ≤ (after source (later ++ .read :: past)).read.1) ∧
      ∀ later, (after source (later ++ .reset :: past)).read.1
        = (after (source.onward past) later).read.1 := by
  have hread (past) := (tracks_after hs past).read_eq hs
  refine ⟨hread past, fun later hlater => ?_, fun later => ?_⟩
  · obtain ⟨href, hseen⟩ := source.reference_append hlater (.read :: past)
    have hlast := hread (later ++ .read :: past)
    rw [href, List.max?_eq_some_iff] at hlast
    have hmem := (List.max?_eq_some_iff.1 (hread past)).1
    have hsub := List.map_subset (source.reference past).elapsed
      (List.subset_cons_of_subset (source.shown (later ++ .read :: past)) hseen)
    exact UInt64.le_iff_toNat_le.2 (hlast.2 _ (hsub hmem))
  · have hold := hread (later ++ .reset :: past)
    have hnew := (tracks_after (hs.onward past) later).read_eq (hs.onward past)
    have hseen := (source.seen_append_reset (.read :: later) past).2
    rw [List.cons_append] at hseen
    rw [hseen, (source.seen_append_reset later past).1, hnew] at hold
    exact (UInt64.toNat_inj.1 (Option.some.inj hold)).symm

/-- A source that steps back below the reference, between readings and before a reset. -/
theorem reading_is_running_maximum_backwards :
    let source := TimeSource.scripted
      [⟨5, 0⟩, ⟨7, 500000000⟩, ⟨4, 0⟩, ⟨2, 999999999⟩, ⟨4, 0⟩]
    source.Normal ∧ (after source [.read]).read.1.toNat = 2500 ∧
      (after source [.reset, .read, .read]).read.1.toNat = 1000 := by
  intro source
  have hs : source.Normal := normal_scripted (by decide)
  have hfirst := (reading_is_running_maximum hs [.read]).1
  have hsecond := (reading_is_running_maximum hs [.reset, .read, .read]).1
  exact ⟨hs, Option.some.inj (hfirst.symm.trans (by decide)),
    Option.some.inj (hsecond.symm.trans (by decide))⟩

end Clock

end BoardConsole
