import BoardConsole.Functions.System
import BoardConsole.Proofs.Console.Listing
import BoardConsole.Proofs.Lines.Foreground
import BoardConsole.Proofs.Output.Sink
import BoardConsole.Proofs.Output.Stack
import BoardConsole.Proofs.Volume

/-!
# Output — What is captured and saved

What goes wrong while output is written is not told where it happens; a redirect keeps the first of
it, and output goes on.  It is told in the end: finishing a redirect answers the first fault of what
was emitted to its sink, or else that of the flush (`capture_eq`).

* `saved_is_complete`: a redirect finishes without a fault exactly where its sink accepted all that
  was emitted to it and could be flushed, and then the sink has all of it; so a save answers one
  exactly where the file takes the whole listing, and otherwise zero.  What lies beneath is restored
  in every case.

A level of a tower keeps its place while others come and go above it, and takes what is emitted
while there are none (`Under`).  One operation moves what is still to come into what the level has
(`Under.step`), so that over a whole run nothing of it is lost (`Under.play`).
-/

namespace BoardConsole
open Text

/-! ### Emits under a redirect -/

/-- What is emitted while none of the redirects made in between is alive. -/
def emitted : (inner : Nat) → List OutputOp → List (List UInt8)
  | _, []                     => []
  | inner, .redirect _ :: ops => emitted (inner + 1) ops
  | inner, .close _ _ :: ops  => emitted (inner - 1) ops
  | 0, .emit e :: ops         => e.bytes :: emitted 0 ops
  | inner + 1, .emit _ :: ops => emitted (inner + 1) ops

namespace Tower
variable {t : Tower} {inner : Nat} {own : Level} {below : List Level} {s : Sink}

/-- A tower with some levels above one whose sink is known. -/
structure Under (t : Tower) (inner : Nat) (own : Level) (below : List Level) (s : Sink) : Prop where
  levels : ∃ above, above.length = inner ∧ t.levels = above ++ own :: below
  sink   : t.sinks[own.id]? = some s
  apart  : t.Apart []

theorem Under.ne_nil (h : t.Under inner own below s) : t.levels ≠ [] := by
  obtain ⟨above, -, hlevels⟩ := h.levels
  simp [hlevels]

/-- The levels above have sinks of their own. -/
theorem Under.id_ne {level : Level} {above : List Level} (h : t.Under inner own below s)
    (hlevels : t.levels = level :: (above ++ own :: below)) : level.id ≠ own.id := by
  have hapart := h.apart
  rw [Apart, hlevels] at hapart
  have htop := (List.pairwise_cons.mp (List.pairwise_cons.mp hapart).2).1 own.id (by simp)
  exact Nat.ne_of_gt htop

theorem Under.emit_own (h : t.Under 0 own below s) (bytes : List UInt8) :
    (t.emit bytes).Under 0 { own with faults := own.faults ++ (s.writeAll bytes).1.toList } below
      (s.writeAll bytes).2 := by
  obtain ⟨⟨above, habove, hlevels⟩, hsink, hapart⟩ := h
  obtain rfl := List.length_eq_zero_iff.mp habove
  obtain ⟨sinks, levels⟩ := t
  obtain rfl : levels = own :: below := hlevels
  refine ⟨⟨[], rfl, ?_⟩, ?_, hapart.emit bytes⟩ <;>
    simp [Tower.emit, show sinks[own.id]? = some s from hsink]

theorem Under.emit_above (h : t.Under (inner + 1) own below s) (bytes : List UInt8) :
    (t.emit bytes).Under (inner + 1) own below s := by
  obtain ⟨above, habove, hlevels⟩ := h.levels
  cases above with
  | nil => simp at habove
  | cons level above =>
      have hne := h.id_ne hlevels
      obtain ⟨-, hsink, hapart⟩ := h
      obtain ⟨sinks, levels⟩ := t
      obtain rfl : levels = level :: (above ++ own :: below) := hlevels
      let fault := sinks[level.id]?.bind fun s => (s.writeAll bytes).1
      let top : Level := { level with faults := level.faults ++ fault.toList }
      refine ⟨⟨top :: above, habove, rfl⟩, ?_, hapart.emit bytes⟩
      exact (List.getElem?_modify_ne _ _ hne).trans hsink

theorem Under.redirect (h : t.Under inner own below s) (sink : Sink) :
    (t.step (.redirect sink)).2.Under (inner + 1) own below s := by
  obtain ⟨⟨above, habove, hlevels⟩, hsink, hapart⟩ := h
  refine ⟨⟨⟨t.sinks.length, []⟩ :: above, by simp [habove], by simp [step, hlevels]⟩, ?_,
    hapart.step _⟩
  exact List.getElem?_append_left (List.getElem?_eq_some_iff.mp hsink).1 |>.trans hsink

theorem Under.close (h : t.Under (inner + 1) own below s) (how : Closing) :
    (t.step (.close 0 how)).2.Under inner own below s := by
  obtain ⟨above, habove, hlevels⟩ := h.levels
  cases above with
  | nil => simp at habove
  | cons level above =>
      have hne := h.id_ne hlevels
      obtain ⟨-, hsink, hapart⟩ := h
      have hrest := hapart.step (.close 0 how)
      obtain ⟨sinks, levels⟩ := t
      obtain rfl : levels = level :: (above ++ own :: below) := hlevels
      refine ⟨⟨above, Nat.succ.inj habove, rfl⟩, ?_, hrest⟩
      exact (List.getElem?_modify_ne _ _ hne).trans hsink

/-- One operation above a level: what the level is still to take, and what is to go wrong there,
comes out the same. -/
theorem Under.step (h : t.Under inner own below s) {op : OutputOp} {ops : List OutputOp}
    (hop : op.Nested) (hops : Balanced inner (op :: ops)) :
    ∃ inner' own' s', (t.step op).2.Under inner' own' below s' ∧ Balanced inner' ops ∧
      own'.id = own.id ∧
      own'.faults ++ s'.faults (emitted inner' ops)
        = own.faults ++ s.faults (emitted inner (op :: ops)) ∧
      s'.after (emitted inner' ops) = s.after (emitted inner (op :: ops)) := by
  cases op with
  | emit e =>
      cases inner with
      | zero => exact ⟨0, _, _, h.emit_own _, hops, rfl, by simp [emitted, Sink.faults], rfl⟩
      | succ inner => exact ⟨_, own, s, h.emit_above _, hops, rfl, rfl, rfl⟩
  | redirect sink => exact ⟨_, own, s, h.redirect sink, hops, rfl, rfl, rfl⟩
  | close newer how =>
      obtain rfl : newer = 0 := hop
      cases inner with
      | zero => exact absurd hops.1 (Nat.not_lt_zero _)
      | succ inner => exact ⟨_, own, s, h.close how, hops.2, rfl, rfl, rfl⟩

/-- A run above a level, that takes all levels above it off again. -/
theorem Under.play (h : t.Under inner own below s) (base : Saved)
    (outer : List (SinkId × Redirect)) {ops : List OutputOp} (hnested : ∀ op ∈ ops, op.Nested)
    (hops : Balanced inner ops) :
    ∃ t' : Tower, (Outlet.play ops (t.outlet base outer)).2 = t'.outlet base outer ∧
      t'.Under 0 ⟨own.id, own.faults ++ s.faults (emitted inner ops)⟩ below
        (s.after (emitted inner ops)) := by
  induction ops generalizing t inner own s with
  | nil =>
      obtain rfl : inner = 0 := hops
      exact ⟨t, rfl, by simpa [emitted, Sink.faults, Sink.after] using h⟩
  | cons op ops ih =>
      -- The sums on the right are the same before and after the operation.
      rw [List.forall_mem_cons] at hnested
      obtain ⟨inner', own', s', hunder, hrest, hid, hfaults, hafter⟩ := h.step hnested.1 hops
      obtain ⟨t', hplay, hend⟩ := ih hunder hnested.2 hrest
      rw [hid, hfaults, hafter] at hend
      refine ⟨t', ?_, hend⟩
      rw [Outlet.play, step_outlet (.inl h.ne_nil) hnested.1]
      exact hplay

end Tower

namespace Outlet

/-- What a program does under a redirect that it makes and finishes. -/
def capture (o : Outlet) (sink : Sink) (ops : List OutputOp) : OutputReply × Outlet :=
  (play ops (o.step (.redirect sink)).2).2.step (.close 0 .finish)

/-- Finishing answers the first thing that went wrong with what was emitted to the sink, or else
with its flush, and puts everything beneath it back. -/
theorem capture_eq (o : Outlet) (sink : Sink) {ops : List OutputOp}
    (hnested : ∀ op ∈ ops, op.Nested) (hops : Balanced 0 ops) :
    ∃ sinks, o.capture sink ops
        = (.finished (sink.verdict (emitted 0 ops)),
          ⟨⟨sinks, o.router.route, o.router.fault⟩, o.live⟩) ∧
      sinks[o.router.sinks.length]? = some (sink.after (emitted 0 ops)).close.2 := by
  let t : Tower := ⟨o.router.sinks ++ [sink], [⟨o.router.sinks.length, []⟩]⟩
  have hunder : t.Under 0 ⟨o.router.sinks.length, []⟩ [] sink :=
    ⟨⟨[], rfl, rfl⟩, by simp [t], by simp [t, Tower.Apart]⟩
  obtain ⟨t', hplay, ⟨above, habove, hlevels⟩, hsink, -⟩ :=
    hunder.play ⟨o.router.route, o.router.fault⟩ o.live hnested hops
  obtain rfl := List.length_eq_zero_iff.mp habove
  obtain ⟨sinks, levels⟩ := t'
  obtain rfl : levels = [⟨o.router.sinks.length, sink.faults (emitted 0 ops)⟩] := hlevels
  have hredirect : (o.step (.redirect sink)).2
      = t.outlet ⟨o.router.route, o.router.fault⟩ o.live := rfl
  refine ⟨sinks.modify o.router.sinks.length fun s => s.close.2, ?_, ?_⟩
  · have hclose : (OutputOp.close 0 .finish).Nested := rfl
    rw [capture, hredirect, hplay, step_outlet (.inl (List.cons_ne_nil _ _)) hclose]
    simp only [Tower.step, show sinks[o.router.sinks.length]? = _ from hsink]
    rfl
  · rw [List.getElem?_modify_eq, show sinks[o.router.sinks.length]? = _ from hsink]
    rfl

/-- What a redirect that is made and finished answers and leaves, with `ops` in between. -/
structure CaptureOutcome (o : Outlet) (sink : Sink) (ops : List OutputOp) (reply : OutputReply)
    (o' : Outlet) : Prop where
  finished : ∃ fault, reply = .finished fault
  complete : reply = .finished none ↔ sink.Completes (emitted 0 ops)
  received : reply = .finished none → o'.router.bytesOf o.router.sinks.length
    = sink.contents ++ (emitted 0 ops).flatten
  route    : o'.router.route = o.router.route
  fault    : o'.router.fault = o.router.fault
  live     : o'.live = o.live

theorem captureOutcome (o : Outlet) (sink : Sink) {ops : List OutputOp}
    (hnested : ∀ op ∈ ops, op.Nested) (hops : Balanced 0 ops) :
    CaptureOutcome o sink ops (o.capture sink ops).1 (o.capture sink ops).2 := by
  obtain ⟨sinks, hcapture, hsink⟩ := capture_eq o sink hnested hops
  have hcomplete : OutputReply.finished (sink.verdict (emitted 0 ops)) = .finished none ↔
      sink.Completes (emitted 0 ops) := by
    rw [OutputReply.finished.injEq, Sink.verdict_eq_none_iff]
  rw [hcapture]
  refine ⟨⟨_, rfl⟩, hcomplete, fun hnone => ?_, rfl, rfl, rfl⟩
  rw [← Sink.received_of_completes (hcomplete.mp hnone)]
  simp [Router.bytesOf, hsink, Sink.received]

end Outlet

/-! ### The listing -/

/-- What is emitted for lines, piece by piece. -/
def chunks (lines : List String) : List (List UInt8) :=
  lines.flatMap fun line => [Utf8.encode line, LineBuffer.lineEnd]

theorem flatten_chunks (lines : List String) :
    (chunks lines).flatten = Foreground.written lines := by
  induction lines with
  | nil => rfl
  | cons line lines ih =>
      rw [Foreground.written, List.flatMap_cons, ← Foreground.written, ← ih]
      simp [chunks]

/-- Printing lines. -/
def printing (lines : List String) : List OutputOp :=
  lines.flatMap fun line => [.emit (.text line), .emit .lineEnd]

theorem emitted_printing (lines : List String) : emitted 0 (printing lines) = chunks lines := by
  induction lines with
  | nil => rfl
  | cons line lines ih => exact congrArg (fun rest => Utf8.encode line :: [13, 10] :: rest) ih

theorem nested_printing (lines : List String) : ∀ op ∈ printing lines, op.Nested := by
  intro op hop
  obtain ⟨line, -, hop⟩ := List.mem_flatMap.mp hop
  rcases List.mem_pair.mp hop with rfl | rfl <;> trivial

theorem balanced_printing (lines : List String) : Balanced 0 (printing lines) := by
  induction lines with
  | nil => rfl
  | cons line lines ih => exact ih

namespace Host

/-- Printing lines changes the router alone. -/
theorem foldl_emitLine (lines : List String) (h : Host) (live : List (SinkId × Redirect)) :
    lines.foldl emitLine h
        = { h with output := (Outlet.play (printing lines) ⟨h.output, live⟩).2.router } ∧
      (Outlet.play (printing lines) ⟨h.output, live⟩).2.live = live := by
  induction lines generalizing h with
  | nil => exact ⟨rfl, rfl⟩
  | cons line lines ih => exact ih (h.emitLine line)

/-- **A capture of the listing.**  It answers what went wrong first, and what the device of the sink
took; the route and the failure recorded on it are as before. -/
theorem capture_listing (h : Host) (sink : Sink) :
    ∃ output, h.capture sink printListing
        = (sink.verdict (chunks h.listing), sink.received (chunks h.listing), { h with output }) ∧
      output.route = h.output.route ∧ output.fault = h.output.fault ∧
      output.bytesOf h.output.sinks.length = sink.received (chunks h.listing) := by
  obtain ⟨sinks, hcapture, hsink⟩ := Outlet.capture_eq ⟨h.output, []⟩ sink
    (nested_printing h.listing) (balanced_printing h.listing)
  rw [emitted_printing] at hcapture hsink
  obtain ⟨hprint, hlive⟩ := foldl_emitLine h.listing
    { h with output := (h.output.redirect sink).2 }
    [(h.output.sinks.length, (h.output.redirect sink).1)]
  -- Printing makes and ends no redirect, so the newest one is still the one that was made here.
  have hfirst := congrArg (·[0]?) hlive
  have hclose := hcapture.symm.trans (Outlet.step_close hfirst .finish)
  obtain ⟨hreply, houtlet⟩ := Prod.mk.inj hclose
  have hfault := OutputReply.finished.inj hreply
  have hrouter := (Outlet.mk.inj houtlet).1
  have hbytes : Router.bytesOf ⟨sinks, h.output.route, h.output.fault⟩ h.output.sinks.length
      = sink.received (chunks h.listing) := by
    simp [Router.bytesOf, hsink, Sink.received]
  refine ⟨⟨sinks, h.output.route, h.output.fault⟩, ?_, rfl, rfl, hbytes⟩
  have hprinted := (printListing_eq { h with output := (h.output.redirect sink).2 }).trans hprint
  rw [← hbytes, hfault, hrouter, capture]
  dsimp only
  rw [hprinted]
  rfl

/-! ### Saving -/

/-- A file that is written through a buffer. -/
abbrev savedTo (devices : Place → Device) (place : Place) : Sink :=
  .buffered fileBuffer (devices place)

/-- **A save.**  It answers whether the file completed the listing, and the file has what its device
took. -/
theorem saveThrough_listing {h : Host} {name : String} {place : Place}
    (devices : Place → Device) (hplace : h.volume.locate name = .ok place) :
    ∃ output, h.saveThrough devices printListing name
        = (((savedTo devices place).verdict (chunks h.listing)).isNone,
          { h with
            output
            volume := (h.volume.store place []).store place
              ((savedTo devices place).received (chunks h.listing)) }) ∧
      output.route = h.output.route ∧ output.fault = h.output.fault ∧
      output.bytesOf h.output.sinks.length
        = (savedTo devices place).received (chunks h.listing) := by
  obtain ⟨output, hcapture, hrest⟩ :=
    capture_listing { h with volume := h.volume.store place [] } (savedTo devices place)
  refine ⟨output, ?_, hrest⟩
  rw [saveThrough, hplace]
  dsimp only
  rw [hcapture]
  rfl

theorem received_listing {devices : Place → Device} {place : Place} {lines : List String}
    (h : (savedTo devices place).Completes (chunks lines)) :
    (savedTo devices place).received (chunks lines) = Foreground.written lines := by
  rw [Sink.received_of_completes h, flatten_chunks]
  rfl

/-- **A file that the listing was saved to holds the lines of the listing.** -/
theorem save_file {h : Host} {name : String} {path : Path}
    (hplace : h.volume.locate name = .ok (.file path)) :
    (h.save printListing name).1 = true ∧
      (h.save printListing name).2.volume.openInput? name
        = some (.ofBytes (Foreground.written h.listing)) := by
  obtain ⟨output, hsave, -⟩ := saveThrough_listing deviceAt hplace
  have hcompletes : (savedTo deviceAt (.file path)).Completes (chunks h.listing) :=
    Sink.completes_endless rfl _
  rw [save, hsave, (Sink.verdict_eq_none_iff _ _).mpr hcompletes, received_listing hcompletes]
  exact ⟨rfl, Volume.openInput?_put (Volume.locate_put hplace path []) _⟩

/-- What is saved to the null device is gone. -/
theorem save_null {h : Host} {name : String}
    (hplace : h.volume.locate name = .ok (.special .null)) :
    (h.save printListing name).2.volume.openInput? name = some (.ofBytes []) := by
  obtain ⟨output, hsave, -⟩ := saveThrough_listing deviceAt hplace
  rw [save, hsave]
  simp only [Volume.store, Volume.openInput?, Volume.read, hplace]

theorem saveThrough_fault {h : Host} {name : String} {fault : PathFault} (devices : Place → Device)
    (hplace : h.volume.locate name = .error fault) (listing : Host → Host) :
    h.saveThrough devices listing name = (false, h) := by
  rw [saveThrough, hplace]

theorem save_fault {h : Host} {name : String} {fault : PathFault}
    (hplace : h.volume.locate name = .error fault) : (h.save printListing name).1 = false := by
  rw [save, saveThrough_fault deviceAt hplace]

/-! ### What is answered -/

/-- What a save to the file of a name answers and leaves. -/
structure SaveOutcome (devices : Place → Device) (name : String) (h : Host) (value : Int32)
    (h' : Host) : Prop where
  answer   : value = 1 ∨ value = 0
  complete : value = 1 ↔ ∃ place, h.volume.locate name = .ok place ∧
    (savedTo devices place).Completes (chunks h.listing)
  /-- The sink that was made for the file has the listing, line by line. -/
  received : value = 1 →
    h'.output.bytesOf h.output.sinks.length = Foreground.written h.listing
  /-- A regular file has what its sink has. -/
  file     : ∀ path, h.volume.locate name = .ok (.file path) →
    h'.volume.contents? path = some (h'.output.bytesOf h.output.sinks.length)
  unopened : ∀ fault, h.volume.locate name = .error fault → h' = h
  route    : h'.output.route = h.output.route
  fault    : h'.output.fault = h.output.fault

theorem saveOutcome (devices : Place → Device) (name : String) (h : Host) :
    SaveOutcome devices name h (if (h.saveThrough devices printListing name).1 then 1 else 0)
      (h.saveThrough devices printListing name).2 := by
  cases hplace : h.volume.locate name with
  | error fault =>
      rw [saveThrough_fault devices hplace]
      constructor <;> simp [hplace]
  | ok place =>
      obtain ⟨output, hsave, hroute, hfault, hbytes⟩ := saveThrough_listing devices hplace
      have hone : (if ((savedTo devices place).verdict (chunks h.listing)).isNone then
          (1 : Int32) else 0) = 1 ↔ (savedTo devices place).Completes (chunks h.listing) := by
        simp [Sink.verdict_eq_none_iff]
      rw [hsave]
      constructor
      case answer => split <;> simp
      case complete => rw [hone, hplace]; simp
      case received => exact fun hvalue => hbytes.trans (received_listing (hone.mp hvalue))
      case file =>
        rintro path hpath
        obtain rfl : place = .file path := Except.ok.inj (hplace.symm.trans hpath)
        exact (Volume.contents?_put _ path _).trans (congrArg some hbytes.symm)
      case unopened => simp [hplace]
      case route => exact hroute
      case fault => exact hfault

/-- **What was saved without a fault is complete.**  Finishing a redirect answers a fault, or none
exactly where its sink accepted in full all that was emitted to it and could be flushed, and then
the sink has it, in order; and whatever stands where a file is saved to, a save answers one exactly
where the file can be opened and completes the listing, and then it has the listing, and zero
otherwise.  The route beneath, and the failure recorded on it, are as before. -/
theorem saved_is_complete :
    (∀ (o : Outlet) (sink : Sink) (ops : List OutputOp), (∀ op ∈ ops, op.Nested) →
      Balanced 0 ops → o.CaptureOutcome sink ops (o.capture sink ops).1 (o.capture sink ops).2) ∧
    ∀ (devices : Place → Device) (args : List Arg) (h : Host), ∃ value h',
      System.saveThrough devices ⟨args, printListing⟩ h = .ok value h' ∧
        SaveOutcome devices ((Arg.text? args 1).getD h.defaultFile) h value h' :=
  ⟨fun o sink _ => o.captureOutcome sink,
    fun devices _ h => ⟨_, _, rfl, saveOutcome devices _ h⟩⟩

/-- A line, with another redirect between its text and its end. -/
def interruptedLine : List OutputOp :=
  [.emit (.text "ab"), .redirect (.fresh (.limited (some 1) true true)), .emit (.text "cd"),
    .close 0 .unwind, .emit .lineEnd]

/-- With a buffer of three bytes, a device with room for four takes the line; where it has room for
three, every emit is accepted, and the flush finds out. -/
theorem saved_is_complete_interrupted :
    (∀ op ∈ interruptedLine, op.Nested) ∧ Balanced 0 interruptedLine ∧
    ((Outlet.toConsole (.fresh .endless)).capture
        (.buffered 3 (.limited (some 4) false false)) interruptedLine).2.router.bytesOf 1
      = [97, 98, 13, 10] ∧
    ((Outlet.toConsole (.fresh .endless)).capture
        (.buffered 3 (.limited (some 3) false false)) interruptedLine).1
      = .finished (some .noSpace) ∧
    ¬ (Sink.buffered 3 (.limited (some 3) false false)).Completes (emitted 0 interruptedLine) := by
  have hnested : ∀ op ∈ interruptedLine, op.Nested := by decide
  have hbalanced : Balanced 0 interruptedLine := by simp [interruptedLine, Balanced]
  have htakes := saved_is_complete.1 (.toConsole (.fresh .endless))
    (.buffered 3 (.limited (some 4) false false)) interruptedLine hnested hbalanced
  have hloses := saved_is_complete.1 (.toConsole (.fresh .endless))
    (.buffered 3 (.limited (some 3) false false)) interruptedLine hnested hbalanced
  have hfault : ((Outlet.toConsole (.fresh .endless)).capture
      (.buffered 3 (.limited (some 3) false false)) interruptedLine).1
        = .finished (some .noSpace) := by cbv
  refine ⟨hnested, hbalanced, ?_, hfault, fun hcompletes => ?_⟩
  · refine (htakes.received (by cbv)).trans ?_
    cbv
  · have hnone := hloses.complete.mpr hcompletes
    rw [hfault] at hnone
    cases hnone

end Host

end BoardConsole
