import BoardConsole.Output.Router
import BoardConsole.Proofs.Output.Sink
import Mathlib

/-!
# Output — Redirects as a stack

A program emits, redirects, and ends its redirects, each of which keeps what lay beneath it
(`Outlet`).  Nothing is stored as a stack; but while the newest live redirect is always the one that
ends, there is one: a level for each live redirect, with its sink and all that went wrong while it
was the innermost (`Tower`).

* `redirects_stack`: from any console, whatever is emitted and however the sinks behave, every reply
  is that of the tower, and the router shows it (`Shows`).
* `Counts.step`: a sink without a buffer is flushed once, by the ending of its own redirect.

A tower determines the router and what every live redirect keeps (`Tower.outlet`), and one operation
leads from the outlet of a tower to the outlet of the next (`step_outlet`); a run is an induction
over its operations.  What holds after every run holds after every operation of one, since the
operations up to there are a run too.
-/

namespace BoardConsole

/-- How a redirect ends. -/
inductive Closing where
  | finish
  | drop
  /-- It goes out of use while an error unwinds. -/
  | unwind
deriving DecidableEq, Repr

/-- What is emitted. -/
inductive Emission where
  | byte (b : UInt8)
  | text (t : String)
  | lineEnd
deriving DecidableEq, Repr

/-- What a program does with its output. -/
inductive OutputOp where
  | emit (e : Emission)
  | redirect (sink : Sink)
  /-- Ends the live redirect after which `newer` other live ones were made. -/
  | close (newer : Nat) (how : Closing)

/-- What an operation replies. -/
inductive OutputReply where
  | done
  | finished (fault : Option WriteFault)
deriving DecidableEq, Repr

/-- The bytes that are emitted. -/
def Emission.bytes : Emission → List UInt8
  | byte b  => [b]
  | text t  => Text.Utf8.encode t
  | lineEnd => [13, 10]

/-- Emits to a router. -/
def Emission.emitTo (r : Router) : Emission → Router
  | byte b  => r.emitByte b
  | text t  => r.emitText t
  | lineEnd => r.emitLineEnd

theorem Emission.emitTo_eq (r : Router) (e : Emission) : e.emitTo r = r.emit e.bytes := by
  cases e <;> rfl

/-- The reply of an ending. -/
def Closing.reply : Closing → Option WriteFault → OutputReply
  | finish, fault => .finished fault
  | drop, _       => .done
  | unwind, _     => .done

/-- Where it ends a redirect, that is the newest one. -/
def OutputOp.Nested : OutputOp → Prop
  | close newer _ => newer = 0
  | _             => True

/-- Every ending is of a live redirect, and in the end none is left alive. -/
def Balanced : (live : Nat) → List OutputOp → Prop
  | live, []                    => live = 0
  | live, .redirect _ :: ops    => Balanced (live + 1) ops
  | live, .close newer _ :: ops => newer < live ∧ Balanced (live - 1) ops
  | live, .emit _ :: ops        => Balanced live ops

instance : DecidablePred OutputOp.Nested
  | .close newer _ => inferInstanceAs (Decidable (newer = 0))
  | .emit _ | .redirect _ => isTrue trivial

/-- A router and its live redirects, the newest first, each with the sink it was made for. -/
structure Outlet where
  router : Router
  live   : List (SinkId × Redirect)

namespace Outlet

/-- Nothing is redirected. -/
def toConsole (console : Sink) : Outlet := ⟨.toConsole console, []⟩

/-- Runs one operation. Where there is no redirect to end, nothing happens. -/
def step (o : Outlet) : OutputOp → OutputReply × Outlet
  | .emit e => (.done, { o with router := e.emitTo o.router })
  | .redirect sink =>
    let (redirect, router) := o.router.redirect sink
    (.done, ⟨router, (o.router.sinks.length, redirect) :: o.live⟩)
  | .close newer how =>
    match o.live[newer]? with
    | none => (.done, o)
    | some (_, redirect) =>
      let live := o.live.eraseIdx newer
      match how with
      | .finish =>
        let (fault, router) := o.router.finish redirect
        (.finished fault, ⟨router, live⟩)
      | .drop | .unwind => (.done, ⟨o.router.drop redirect, live⟩)

/-- Runs operations in order. -/
def play : List OutputOp → Outlet → List OutputReply × Outlet
  | [],        o => ([], o)
  | op :: ops, o =>
    let (reply, o) := o.step op
    let (replies, o) := play ops o
    (reply :: replies, o)

end Outlet

/-! ### The stack -/

/-- A live redirect: its sink, and what went wrong while it was the innermost one, in order. -/
structure Level where
  id     : SinkId
  faults : List WriteFault

/-- The sinks, the console first, and the live redirects, the innermost first. -/
structure Tower where
  sinks  : List Sink
  levels : List Level

namespace Tower

/-- A console with nothing on it. -/
def bare (console : Sink) : Tower := ⟨[console], []⟩

/-- Only the sink of the innermost level gets what is emitted; with no level, the console does. -/
def emit (t : Tower) (bytes : List UInt8) : Tower :=
  match t.levels with
  | [] => { t with sinks := t.sinks.modify 0 fun s => (Router.writeFlushed s bytes).2 }
  | level :: below =>
    let fault := t.sinks[level.id]?.bind fun s => (s.writeAll bytes).1
    { sinks  := t.sinks.modify level.id fun s => (s.writeAll bytes).2
      levels := { level with faults := level.faults ++ fault.toList } :: below }

/-- Runs one operation. A redirect adds a level; an ending closes the sink of the innermost level,
takes that level off, and answers the first thing that went wrong while it was there. -/
def step (t : Tower) : OutputOp → OutputReply × Tower
  | .emit e => (.done, t.emit e.bytes)
  | .redirect sink =>
    (.done, { sinks := t.sinks ++ [sink], levels := ⟨t.sinks.length, []⟩ :: t.levels })
  | .close _ how =>
    match t.levels with
    | [] => (.done, t)
    | level :: below =>
      let flushed := t.sinks[level.id]?.bind fun s => s.close.1
      (how.reply (level.faults.head?.or flushed),
        { sinks := t.sinks.modify level.id fun s => s.close.2, levels := below })

/-- Runs operations in order. -/
def play : List OutputOp → Tower → List OutputReply × Tower
  | [],        t => ([], t)
  | op :: ops, t =>
    let (reply, t) := t.step op
    let (replies, t) := play ops t
    (reply :: replies, t)

/-! ### The outlet of a tower -/

/-- The route and its first failure with some levels on top of others. -/
def saved (base : Saved) : List Level → Saved
  | []         => base
  | level :: _ => ⟨some level.id, level.faults.head?⟩

/-- What the redirects of some levels keep. -/
def redirects (base : Saved) : List Level → List (SinkId × Redirect)
  | []             => []
  | level :: below => (level.id, ⟨some (saved base below)⟩) :: redirects base below

/-- The router and the redirects that make up a tower. It stands on a route, and beside redirects
made before. -/
def outlet (t : Tower) (base : Saved) (outer : List (SinkId × Redirect)) : Outlet :=
  ⟨⟨t.sinks, (saved base t.levels).route, (saved base t.levels).fault⟩,
    redirects base t.levels ++ outer⟩

end Tower

/-! ### The router's operations -/

namespace Router

theorem onSink_eq (r : Router) (id : SinkId) (op : Sink → Option WriteFault × Sink) :
    r.onSink id op = (r.sinks[id]?.bind fun s => (op s).1,
      { r with sinks := r.sinks.modify id fun s => (op s).2 }) := by
  unfold onSink
  cases hsink : r.sinks[id]? with
  | none =>
      have hlen := List.getElem?_eq_none_iff.mp hsink
      rw [List.modify_eq_self hlen]
      rfl
  | some s =>
      rw [List.modify_eq_set_getElem?]
      simp [hsink]

/-- A redirect ends once: what goes out of use after it has ended changes nothing. -/
theorem finish_eq (r : Router) (saved : Saved) :
    r.finish ⟨some saved⟩ = (r.fault.or (r.route.bind fun id => r.sinks[id]?.bind (·.close.1)),
      ⟨r.route.elim r.sinks fun id => r.sinks.modify id fun s => s.close.2,
        saved.route, saved.fault⟩) := by
  cases hroute : r.route with
  | none => simp [finish, drop, restore, hroute]
  | some id => simp [finish, drop, restore, hroute, onSink_eq]

theorem emit_console {r : Router} (h : r.route = none) (bytes : List UInt8) :
    r.emit bytes
      = { r with sinks := r.sinks.modify 0 fun s => (writeFlushed s bytes).2 } := by
  simp only [emit, h, onSink_eq]

theorem emit_redirected {r : Router} {id : SinkId} (h : r.route = some id) (bytes : List UInt8) :
    r.emit bytes =
      { r with
        sinks := r.sinks.modify id fun s => (s.writeAll bytes).2
        fault := r.fault.or (r.sinks[id]?.bind fun s => (s.writeAll bytes).1) } := by
  simp only [emit, h, onSink_eq]

end Router

namespace Outlet

/-- Ending a live redirect. However it ends, the router is left as by `finish`. -/
theorem step_close {o : Outlet} {newer : Nat} {id : SinkId} {saved : Saved}
    (h : o.live[newer]? = some (id, ⟨some saved⟩)) (how : Closing) :
    o.step (.close newer how) = (how.reply (o.router.finish ⟨some saved⟩).1,
      ⟨(o.router.finish ⟨some saved⟩).2, o.live.eraseIdx newer⟩) := by
  cases how <;> simp only [step, h] <;> rfl

end Outlet

/-! ### One operation -/

section Step
variable {t : Tower} {base : Saved} {outer : List (SinkId × Redirect)}

/-- A tower that stands on a level, or on the console with no redirect beside it. -/
def Tower.Grounded (t : Tower) (base : Saved) (outer : List (SinkId × Redirect)) : Prop :=
  t.levels ≠ [] ∨ base.route = none ∧ outer = []

theorem emit_outlet (h : t.Grounded base outer) (bytes : List UInt8) :
    (t.outlet base outer).router.emit bytes = ((t.emit bytes).outlet base outer).router ∧
      Tower.redirects base (t.emit bytes).levels = Tower.redirects base t.levels := by
  obtain ⟨sinks, levels⟩ := t
  cases levels with
  | nil =>
      have hroute : base.route = none := (h.resolve_left (· rfl)).1
      exact ⟨Router.emit_console hroute bytes, rfl⟩
  | cons level below =>
      refine ⟨(Router.emit_redirected rfl bytes).trans ?_, rfl⟩
      simp [Tower.emit, Tower.outlet, Tower.saved, List.head?_append]

/-- **One operation** on the outlet of a tower replies what the tower does, and leads to the outlet
of the tower after it. -/
theorem step_outlet (h : t.Grounded base outer) {op : OutputOp} (hop : op.Nested) :
    (t.outlet base outer).step op = ((t.step op).1, (t.step op).2.outlet base outer) := by
  cases op with
  | emit e =>
      obtain ⟨hrouter, hredirects⟩ := emit_outlet h e.bytes
      rw [Outlet.step, e.emitTo_eq, hrouter]
      simp only [Tower.step, Tower.outlet, hredirects]
  | redirect sink => rfl
  | close newer how =>
      obtain rfl : newer = 0 := hop
      obtain ⟨sinks, levels⟩ := t
      cases levels with
      | nil =>
          obtain ⟨-, rfl⟩ := h.resolve_left (· rfl)
          rfl
      | cons level below =>
          -- The route is the innermost level, which is also the redirect that ends.
          have hlive : (Tower.outlet ⟨sinks, level :: below⟩ base outer).live[0]?
              = some (level.id, ⟨some (Tower.saved base below)⟩) := rfl
          rw [Outlet.step_close hlive, Router.finish_eq]
          rfl

end Step

/-! ### Runs -/

namespace Tower

/-- The outlet of a tower on the console. -/
abbrev onConsole (t : Tower) : Outlet := t.outlet ⟨none, none⟩ []

theorem play_onConsole {ops : List OutputOp} (hops : ∀ op ∈ ops, op.Nested) (t : Tower) :
    Outlet.play ops t.onConsole = ((play ops t).1, (play ops t).2.onConsole) := by
  induction ops generalizing t with
  | nil => rfl
  | cons op ops ih =>
      rw [List.forall_mem_cons] at hops
      rw [Outlet.play, play, step_outlet (.inr ⟨rfl, rfl⟩) hops.1]
      dsimp only
      rw [ih hops.2]

/-- Every level has a sink of its own, that came before the sinks of the levels above it and after
those of the ground. -/
def Apart (t : Tower) (ground : List SinkId) : Prop :=
  (t.sinks.length :: (t.levels.map Level.id ++ ground)).Pairwise (· > ·)

variable {ground : List SinkId}

theorem apart_bare (console : Sink) : (bare console).Apart [0] := by simp [Apart, bare]

theorem Apart.emit {t : Tower} (h : t.Apart ground) (bytes : List UInt8) :
    (t.emit bytes).Apart ground := by
  obtain ⟨sinks, levels⟩ := t
  cases levels with
  | nil => simpa [Apart, Tower.emit] using h
  | cons level below => simpa [Apart, Tower.emit] using h

theorem Apart.step {t : Tower} (h : t.Apart ground) (op : OutputOp) :
    (t.step op).2.Apart ground := by
  cases op with
  | emit e => exact h.emit _
  | redirect sink =>
      have hlen : t.sinks.length < (t.sinks ++ [sink]).length := by simp
      refine List.pairwise_cons.mpr ⟨fun id hid => ?_, h⟩
      rcases List.mem_cons.mp hid with rfl | hid
      · exact hlen
      · exact Nat.lt_trans ((List.pairwise_cons.mp h).1 id hid) hlen
  | close newer how =>
      obtain ⟨sinks, levels⟩ := t
      cases levels with
      | nil => exact h
      | cons level below =>
          have hsublist : (sinks.length :: (below.map Level.id ++ ground)).Sublist
              (sinks.length :: ((level :: below).map Level.id ++ ground)) :=
            (List.sublist_cons_self _ _).cons_cons _
          have hlen : (sinks.modify level.id fun s => s.close.2).length = sinks.length :=
            List.length_modify ..
          show List.Pairwise _ ((sinks.modify level.id fun s => s.close.2).length :: _)
          rw [hlen]
          exact h.sublist hsublist

theorem Apart.play {t : Tower} (h : t.Apart ground) (ops : List OutputOp) :
    (play ops t).2.Apart ground := by
  induction ops generalizing t with
  | nil => exact h
  | cons op ops ih => exact ih (h.step op)

/-! ### Flushes -/

section Flushes
variable {t : Tower} {id : SinkId} {made s : Sink}

/-- What became of the sink of a redirect: it has no buffer, and it has been flushed once since it was
made exactly if its level is gone. -/
structure Counts (t : Tower) (id : SinkId) (made s : Sink) : Prop where
  current    : t.sinks[id]? = some s
  unbuffered : s.Unbuffered
  flushes    : s.flushes = made.flushes + if id ∈ t.levels.map Level.id then 0 else 1

theorem Counts.emit (h : t.Counts id made s) (hid : id ≠ 0) (bytes : List UInt8) :
    ∃ s', (t.emit bytes).Counts id made s' := by
  obtain ⟨sinks, levels⟩ := t
  obtain ⟨hcurrent : sinks[id]? = some s, hunbuffered, hflushes⟩ := h
  cases levels with
  | nil => exact ⟨s, (List.getElem?_modify_ne _ _ hid.symm).trans hcurrent, hunbuffered, hflushes⟩
  | cons level below =>
      rcases eq_or_ne level.id id with rfl | htop
      · obtain ⟨hstill, hsame⟩ := hunbuffered.writeAll bytes
        refine ⟨(s.writeAll bytes).2, ?_, hstill, hsame.trans hflushes⟩
        exact (List.getElem?_modify_eq ..).trans (congrArg _ hcurrent)
      · exact ⟨s, (List.getElem?_modify_ne _ _ htop).trans hcurrent, hunbuffered, hflushes⟩

/-- **An ending flushes its own sink, once**, and no other. -/
theorem Counts.close (h : t.Counts id made s) (hapart : t.Apart [0]) (newer : Nat) (how : Closing) :
    ∃ s', (t.step (.close newer how)).2.Counts id made s' := by
  obtain ⟨sinks, levels⟩ := t
  obtain ⟨hcurrent : sinks[id]? = some s, hunbuffered, hflushes⟩ := h
  cases levels with
  | nil => exact ⟨s, hcurrent, hunbuffered, hflushes⟩
  | cons level below =>
      rcases eq_or_ne level.id id with rfl | htop
      · obtain ⟨hstill, honce⟩ := hunbuffered.close
        have hgone : level.id ∉ below.map Level.id := fun hmem =>
          Nat.lt_irrefl level.id (List.rel_of_pairwise_cons (List.pairwise_cons.mp hapart).2
            (List.mem_append_left _ hmem))
        rw [List.map_cons, if_pos List.mem_cons_self] at hflushes
        refine ⟨s.close.2, (List.getElem?_modify_eq ..).trans (congrArg _ hcurrent), hstill, ?_⟩
        rw [honce, hflushes]
        exact congrArg (made.flushes + ·) (if_neg hgone).symm
      · refine ⟨s, (List.getElem?_modify_ne _ _ htop).trans hcurrent, hunbuffered,
          hflushes.trans ?_⟩
        simp [Tower.step, Ne.symm htop]

/-- **One operation** on the outlet of a tower flushes what it ends, and nothing else. -/
theorem Counts.step (h : t.Counts id made s) (hapart : t.Apart [0]) (hid : id ≠ 0)
    (op : OutputOp) : ∃ s', (t.step op).2.Counts id made s' := by
  cases op with
  | emit e => exact h.emit hid e.bytes
  | close newer how => exact h.close hapart newer how
  | redirect sink =>
      obtain ⟨hcurrent, hunbuffered, hflushes⟩ := h
      obtain ⟨hlt, -⟩ := List.getElem?_eq_some_iff.mp hcurrent
      refine ⟨s, ?_, hunbuffered, hflushes.trans ?_⟩
      · exact (List.getElem?_append_left hlt).trans hcurrent
      · simp [Tower.step, Nat.ne_of_lt hlt]

theorem Counts.play (h : t.Counts id made s) (hapart : t.Apart [0]) (hid : id ≠ 0)
    (ops : List OutputOp) : ∃ s', (play ops t).2.Counts id made s' := by
  induction ops generalizing t s with
  | nil => exact ⟨s, h⟩
  | cons op ops ih =>
      obtain ⟨s', hnext⟩ := h.step hapart hid op
      exact ih hnext (hapart.step op)

theorem play_append (front back : List OutputOp) (t : Tower) :
    (play (front ++ back) t).2 = (play back (play front t).2).2 := by
  induction front generalizing t with
  | nil => rfl
  | cons op front ih => exact ih _

/-- A redirect has the number of sinks there were when it was made, and its sink counts from
there. -/
theorem counts_redirect (hapart : t.Apart [0]) {sink : Sink} (h : sink.Unbuffered)
    (ops : List OutputOp) :
    ∃ s, (play (.redirect sink :: ops) t).2.Counts t.sinks.length sink s := by
  have hid : t.sinks.length ≠ 0 := Nat.ne_of_gt
    ((List.pairwise_cons.mp hapart).1 0 (List.mem_append_right _ (List.mem_singleton_self 0)))
  have hmade : (t.step (.redirect sink)).2.Counts t.sinks.length sink sink :=
    ⟨by simp [Tower.step], h, by simp [Tower.step]⟩
  exact hmade.play (hapart.step _) hid ops

end Flushes

theorem map_redirects (base : Saved) (levels : List Level) :
    (redirects base levels).map Prod.fst = levels.map Level.id := by
  induction levels with
  | nil => rfl
  | cons level below ih => exact congrArg (level.id :: ·) ih

theorem live_onConsole (t : Tower) :
    t.onConsole.live = redirects ⟨none, none⟩ t.levels := List.append_nil _

end Tower

namespace Outlet

/-- All that can be seen of the outlet is the tower. -/
structure Shows (o : Outlet) (t : Tower) : Prop where
  sinks      : o.router.sinks = t.sinks
  /-- Output goes to the innermost level, with the first thing that went wrong there. -/
  route      : o.router.route = t.levels.head?.map Level.id
  fault      : o.router.fault = t.levels.head?.bind (·.faults.head?)
  live       : o.live.map Prod.fst = t.levels.map Level.id
  /-- Every live redirect has a sink of its own, and none has the console. -/
  apart      : (t.levels.map Level.id ++ [0]).Nodup
  redirected : o.router.isRedirected = true ↔ o.live ≠ []

theorem shows_onConsole {t : Tower} (h : t.Apart [0]) : t.onConsole.Shows t where
  sinks := rfl
  route := by cases hlevels : t.levels <;> simp [Tower.outlet, Tower.saved, hlevels]
  fault := by cases hlevels : t.levels <;> simp [Tower.outlet, Tower.saved, hlevels]
  live := by rw [Tower.live_onConsole, Tower.map_redirects]
  apart := (List.pairwise_cons.mp h).2.imp Nat.ne_of_gt
  redirected := by
    rw [Tower.live_onConsole]
    cases hlevels : t.levels <;>
      simp [Tower.outlet, Tower.saved, Tower.redirects, Router.isRedirected, hlevels]

/-- **Nested redirection is a stack.**  On any console, whatever is emitted, to whatever sinks it is
redirected, and however the redirects end, as long as each one ends before those made earlier: every
reply is that of the tower, and the router shows the tower.  And of a redirect to a sink without a
buffer, the sink has been flushed once if the redirect has ended, and not at all while it is
alive. -/
theorem redirects_stack (console : Sink) {ops : List OutputOp} (hops : ∀ op ∈ ops, op.Nested) :
    (play ops (.toConsole console)).1 = (Tower.play ops (.bare console)).1 ∧
      (play ops (.toConsole console)).2.Shows (Tower.play ops (.bare console)).2 ∧
      ∀ front sink back, ops = front ++ .redirect sink :: back → sink.Unbuffered →
        let id := (play front (.toConsole console)).2.router.sinks.length
        ∃ s, (play ops (.toConsole console)).2.router.sinks[id]? = some s ∧
          s.flushes = sink.flushes
            + if id ∈ (play ops (.toConsole console)).2.live.map Prod.fst then 0 else 1 := by
  have hplay := Tower.play_onConsole hops (.bare console)
  rw [show (Tower.bare console).onConsole = toConsole console from rfl] at hplay
  have hshows := shows_onConsole ((Tower.apart_bare console).play ops)
  rw [hplay]
  refine ⟨rfl, hshows, ?_⟩
  rintro front sink back rfl hunbuffered
  have hfront := Tower.play_onConsole (List.forall_mem_append.mp hops).1 (.bare console)
  rw [show (Tower.bare console).onConsole = toConsole console from rfl] at hfront
  obtain ⟨s, hcurrent, -, hflushes⟩ :=
    Tower.counts_redirect ((Tower.apart_bare console).play front) hunbuffered back
  rw [← Tower.play_append] at hcurrent hflushes
  rw [hfront, hshows.live]
  exact ⟨s, hcurrent, hflushes⟩

/-- A sink with room for two bytes that stalls, and on top of it one with no room that cannot be
flushed either: each redirect answers what went wrong first while it was the innermost one.  After
them comes one where only the flush fails, and one that is alive in the end. -/
def failingSinks : List OutputOp :=
  [.redirect (.fresh (.limited (some 2) true false)), .emit (.text "abc"), .emit .lineEnd,
    .redirect (.fresh (.limited (some 0) false true)), .emit (.byte 33), .close 0 .finish,
    .emit (.text "d"), .close 0 .finish, .redirect (.fresh (.limited none false true)),
    .emit (.text "e"), .close 0 .finish, .redirect (.fresh .endless)]

theorem redirects_stack_failing :
    (∀ op ∈ failingSinks, op.Nested) ∧
    (play failingSinks (.toConsole (.fresh .endless))).1
      = [.done, .done, .done, .done, .done, .finished (some .noSpace), .done,
        .finished (some .stalled), .done, .done, .finished (some .flushFailed), .done] ∧
    (play failingSinks (.toConsole (.fresh .endless))).2.router.sinks.tail.map Sink.flushes
      = [1, 1, 1, 0] ∧
    ∃ s, (play failingSinks (.toConsole (.fresh .endless))).2.router.sinks[3]? = some s ∧
      s.flushes = 1 := by
  have hnested : ∀ op ∈ failingSinks, op.Nested := by decide
  obtain ⟨hreplies, hshows, hflushed⟩ := redirects_stack (.fresh .endless) hnested
  refine ⟨hnested, ?_, ?_, ?_⟩
  · rw [hreplies]
    cbv
  · rw [hshows.sinks]
    cbv
  · obtain ⟨s, hcurrent, hflushes⟩ :=
      hflushed (failingSinks.take 8) (.fresh (.limited none false true)) _ rfl ⟨rfl, rfl⟩
    rw [hshows.live] at hflushes
    exact ⟨s, hcurrent, hflushes⟩

end Outlet

end BoardConsole
