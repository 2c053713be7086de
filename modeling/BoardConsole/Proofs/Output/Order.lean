import BoardConsole.Proofs.Output.Sink
import BoardConsole.Proofs.Output.Stack

/-!
# Output — Redirects that end out of order

An ending closes the sink that output goes to at that moment, and puts back the route that there was
when its redirect was made.  So it closes the sink of its own redirect only while that is the
innermost one; and what it puts back may by then be the sink of a redirect that has ended.

* `each_closes_own_iff`: where each redirect ends once, every ending closes the sink of its own
  redirect if and only if the newest live redirect is always the one that ends; and then output goes
  to the console again.
* `each_closes_own_iff_swapped`: two redirects of which the older one ends first leave output
  redirected for good.
-/

namespace BoardConsole

namespace Outlet

/-- Where a redirect ends, its own sink is closed. -/
def ClosesOwn (o : Outlet) : OutputOp → Prop
  | .close newer how => ∀ id redirect, o.live[newer]? = some (id, redirect) →
      (o.step (.close newer how)).2.router.sinks[id]?
        = o.router.sinks[id]?.map fun s => s.close.2
  | _ => True

/-- Every ending closes the sink of its own redirect. -/
def EachClosesOwn : List OutputOp → Outlet → Prop
  | [], _        => True
  | op :: ops, o => o.ClosesOwn op ∧ EachClosesOwn ops (o.step op).2

theorem live_step_close {o : Outlet} {newer : Nat} (h : newer < o.live.length) (how : Closing) :
    (o.step (.close newer how)).2.live = o.live.eraseIdx newer := by
  have hlive : o.live[newer]? = some o.live[newer] := List.getElem?_eq_getElem h
  cases how <;> simp only [step, hlive]

/-- Where every redirect ends, none is left alive, whatever the order. -/
theorem live_play {ops : List OutputOp} {o : Outlet} (h : Balanced o.live.length ops) :
    (play ops o).2.live = [] := by
  induction ops generalizing o with
  | nil => exact List.length_eq_zero_iff.mp h
  | cons op ops ih =>
      refine ih (o := (o.step op).2) ?_
      cases op with
      | emit e => exact h
      | redirect sink => exact h
      | close newer how =>
          rw [live_step_close h.1, List.length_eraseIdx_of_lt h.1]
          exact h.2

end Outlet

namespace Tower
variable {t : Tower} {op : OutputOp} {ops : List OutputOp}

theorem balanced_step (h : Balanced t.levels.length (op :: ops)) :
    Balanced (t.step op).2.levels.length ops := by
  obtain ⟨sinks, levels⟩ := t
  cases op with
  | redirect sink => exact h
  | emit e => cases levels <;> exact h
  | close newer how =>
      cases levels with
      | nil => exact absurd h.1 (Nat.not_lt_zero _)
      | cons level below => exact h.2

/-- Every level has a redirect, that has not ended. -/
theorem exists_live {n : Nat} {level : Level} (h : t.levels[n]? = some level) :
    ∃ saved, t.onConsole.live[n]? = some (level.id, ⟨some saved⟩) := by
  rw [live_onConsole]
  generalize t.levels = levels at h
  induction levels generalizing n with
  | nil => simp at h
  | cons top below ih =>
      cases n with
      | zero =>
          obtain rfl : top = level := by simpa using h
          exact ⟨_, rfl⟩
      | succ n => exact ih (by simpa using h)

/-- An ending closes the sink of the innermost level, whosever it is. -/
theorem sinks_step_close {level : Level} {below : List Level} (hlevels : t.levels = level :: below)
    {newer : Nat} (hlt : newer < t.levels.length) (how : Closing) :
    (t.onConsole.step (.close newer how)).2.router.sinks
      = t.sinks.modify level.id fun s => s.close.2 := by
  obtain ⟨saved, hlive⟩ := exists_live (List.getElem?_eq_getElem hlt)
  have hroute : t.onConsole.router.route = some level.id := by
    simp [outlet, Tower.saved, hlevels]
  rw [Outlet.step_close hlive, Router.finish_eq, hroute]
  rfl

/-- The innermost redirect closes its own sink. -/
theorem closesOwn_of_nested (hop : op.Nested) : t.onConsole.ClosesOwn op := by
  cases op with
  | emit e => trivial
  | redirect sink => trivial
  | close newer how =>
      obtain rfl : newer = 0 := hop
      intro id redirect hlive
      cases hlevels : t.levels with
      | nil => simp [live_onConsole, redirects, hlevels] at hlive
      | cons level below =>
          obtain ⟨rfl, -⟩ : level.id = id ∧ _ = redirect := by
            simpa [live_onConsole, redirects, hlevels] using hlive
          rw [sinks_step_close hlevels (by simp [hlevels]), List.getElem?_modify_eq]
          rfl

/-- The sink of a level beneath another one is there, and is another sink. -/
theorem Apart.beneath (h : t.Apart [0]) {level lower : Level} {below : List Level}
    (hlevels : t.levels = level :: below) (hlower : lower ∈ below) :
    lower.id < t.sinks.length ∧ lower.id < level.id := by
  have hmem : lower.id ∈ below.map Level.id ++ [0] :=
    List.mem_append_left _ (List.mem_map_of_mem hlower)
  rw [Apart, hlevels] at h
  obtain ⟨hlen, htop⟩ := List.pairwise_cons.mp h
  exact ⟨hlen _ (List.mem_cons_of_mem _ hmem), (List.pairwise_cons.mp htop).1 _ hmem⟩

/-- A redirect that is not the innermost one leaves its sink as it is. -/
theorem nested_of_closesOwn (hapart : t.Apart [0]) {newer : Nat} {how : Closing}
    (hlt : newer < t.levels.length) (h : t.onConsole.ClosesOwn (.close newer how)) :
    newer = 0 := by
  cases hlevels : t.levels with
  | nil => simp [hlevels] at hlt
  | cons level below =>
      cases newer with
      | zero => rfl
      | succ n =>
          have hlower : t.levels[n + 1]? = some t.levels[n + 1] := List.getElem?_eq_getElem hlt
          generalize t.levels[n + 1] = lower at hlower
          obtain ⟨saved, hlive⟩ := exists_live hlower
          -- What is closed is the sink of the innermost level; the one beneath is as it was, and
          -- closing a sink never leaves it as it was.
          have hclosed := h _ _ hlive
          rw [hlevels] at hlower
          obtain ⟨hlen, hid⟩ := hapart.beneath hlevels (List.mem_of_getElem? hlower)
          rw [sinks_step_close hlevels hlt,
            List.getElem?_modify_ne _ _ (Nat.ne_of_gt hid)] at hclosed
          have hsink : t.onConsole.router.sinks[lower.id]? = some t.sinks[lower.id] :=
            List.getElem?_eq_getElem hlen
          have hsame := hsink.symm.trans (hclosed.trans (congrArg _ hsink))
          exact absurd (Option.some.inj hsame).symm (Sink.close_ne _)

theorem nested_of_eachClosesOwn (hapart : t.Apart [0]) (hops : Balanced t.levels.length ops)
    (h : Outlet.EachClosesOwn ops t.onConsole) : ∀ op ∈ ops, op.Nested := by
  induction ops generalizing t with
  | nil => simp
  | cons op ops ih =>
      have hop : op.Nested := by
        cases op with
        | emit e => trivial
        | redirect sink => trivial
        | close newer how => exact nested_of_closesOwn hapart hops.1 h.1
      have hrest := h.2
      rw [step_outlet (.inr ⟨rfl, rfl⟩) hop] at hrest
      rw [List.forall_mem_cons]
      exact ⟨hop, ih (hapart.step op) (balanced_step hops) hrest⟩

theorem eachClosesOwn_of_nested (hops : ∀ op ∈ ops, op.Nested) :
    Outlet.EachClosesOwn ops t.onConsole := by
  induction ops generalizing t with
  | nil => trivial
  | cons op ops ih =>
      rw [List.forall_mem_cons] at hops
      refine ⟨closesOwn_of_nested hops.1, ?_⟩
      rw [step_outlet (.inr ⟨rfl, rfl⟩) hops.1]
      exact ih hops.2

end Tower

namespace Outlet

/-- **When output returns to the console.**  Where each redirect ends once, in whatever order, every
ending closes the sink of its own redirect if and only if each redirect ends before those made
earlier; and if it does, output goes to the console in the end. -/
theorem each_closes_own_iff (console : Sink) {ops : List OutputOp} (hops : Balanced 0 ops) :
    (play ops (.toConsole console)).2.live = [] ∧
      (EachClosesOwn ops (.toConsole console) ↔ ∀ op ∈ ops, op.Nested) ∧
      (EachClosesOwn ops (.toConsole console) →
        (play ops (.toConsole console)).2.router.isRedirected = false) := by
  have hlive : (play ops (.toConsole console)).2.live = [] := live_play hops
  have hiff : EachClosesOwn ops (.toConsole console) ↔ ∀ op ∈ ops, op.Nested :=
    ⟨Tower.nested_of_eachClosesOwn (Tower.apart_bare console) hops,
      Tower.eachClosesOwn_of_nested (t := .bare console)⟩
  refine ⟨hlive, hiff, fun heach => ?_⟩
  have hplay : play ops (toConsole console) = _ :=
    Tower.play_onConsole (hiff.mp heach) (.bare console)
  have hshows := shows_onConsole ((Tower.apart_bare console).play ops)
  rw [hplay] at hlive ⊢
  rw [Bool.eq_false_iff]
  exact fun hredirected => hshows.redirected.mp hredirected hlive

/-- Two redirects of which the older one ends first: output goes to the older one's sink in the end,
which was never closed. -/
def swappedPair : List OutputOp :=
  [.redirect (.fresh .endless), .redirect (.fresh .endless), .close 1 .finish, .close 0 .drop]

theorem each_closes_own_iff_swapped :
    Balanced 0 swappedPair ∧
    (play swappedPair (.toConsole (.fresh .endless))).2.live = [] ∧
    ¬ EachClosesOwn swappedPair (.toConsole (.fresh .endless)) ∧
    (play swappedPair (.toConsole (.fresh .endless))).2.router.isRedirected = true ∧
    (play swappedPair (.toConsole (.fresh .endless))).2.router.sinks.map Sink.flushes
      = [0, 0, 1] := by
  have hbalanced : Balanced 0 swappedPair := by simp [swappedPair, Balanced]
  obtain ⟨hlive, hiff, -⟩ := each_closes_own_iff (.fresh .endless) hbalanced
  exact ⟨hbalanced, hlive, fun heach => absurd (hiff.mp heach) (by decide), by cbv, by cbv⟩

end Outlet

end BoardConsole
