import BoardConsole.Console.Background
import BoardConsole.Proofs.Functions.Effects
import BoardConsole.Proofs.Storage.Packed

/-!
# Console — The consoles that are reached

* `Reached`: the consoles between two lines or passes of a session, where `eewrite` is not called.
* `Moment`: those in the middle of a line as well.
* `Reached.stores`, `Moment.stores`: every macro stored there is one that an admitted line defines.

The functions may be any of which only `eewrite` writes to the storage.  That a function is not called
is said by what it does making no difference (`NeverCalls`).  A run without a call of `eewrite` is
therefore one with an idle function in its place, and no function that is left writes to the storage.
-/

namespace BoardConsole

/-! ### Calls that are not made -/

namespace FunctionTable

/-- The table with another function of a name. -/
def replace (t : FunctionTable) (name : String) (f : Function) : FunctionTable :=
  ⟨t.entries.map fun e => if e.1 = name then (name, f) else e⟩

theorem lookup?_replace {t : FunctionTable} {writer name : String} {f g : Function}
    (h : (t.replace writer g).lookup? name = some f) :
    f = g ∨ name ≠ writer ∧ t.lookup? name = some f := by
  obtain ⟨entries⟩ := t
  simp only [replace, lookup?] at h ⊢
  induction entries with
  | nil => cases h
  | cons e entries ih =>
      rw [List.map_cons, List.lookup_cons] at h
      rw [List.lookup_cons]
      by_cases hwriter : e.1 = writer
      · rw [if_pos hwriter] at h
        by_cases hname : name = writer
        · rw [hname, beq_self_eq_true] at h
          exact .inl (Option.some.inj h).symm
        · rw [beq_eq_false_iff_ne.mpr hname] at h
          rw [beq_eq_false_iff_ne.mpr (hwriter ▸ hname)]
          exact ih h
      · rw [if_neg hwriter] at h
        by_cases hname : name = e.1
        · rw [hname, beq_self_eq_true] at h ⊢
          exact .inr ⟨hwriter, h⟩
        · rw [beq_eq_false_iff_ne.mpr hname] at h ⊢
          exact ih h

/-- Without the one function that writes to the storage, none does. -/
theorem WritesOnlyBy.leavesStorage {t : FunctionTable} {writer name : String}
    (h : t.WritesOnlyBy writer) {f g : Function} (hg : LeavesStorage g)
    (hf : (t.replace writer g).lookup? name = some f) : LeavesStorage f := by
  rcases lookup?_replace hf with rfl | ⟨hname, hf⟩
  · exact hg
  · exact h name f hf hname

end FunctionTable

namespace Console
open Script Lexer

/-- The console with another function of a name. -/
def replace (c : Console) (name : String) (f : Function) : Console :=
  { c with functions := c.functions.replace name f }

/-- The function of a name is not called: it makes no difference what it does. -/
def NeverCalls (name : String) (act : Console → Console) (c : Console) : Prop :=
  ∀ f, act (c.replace name f) = (act c).replace name f

/-- **The consoles that are reached** from fresh ones over a storage of a size, by lines that are
admitted and by background passes, where `eewrite` is never called, and no other function writes to
the storage. -/
inductive Reached (admits : String → Prop) (size : Nat) : Console → Prop where
  | fresh {host : Host} {functions : FunctionTable} (slots : Nat) (idleInterval : Duration) :
      host.storage = .fresh size → functions.WritesOnlyBy "eewrite" →
      Reached admits size (.new host functions slots idleInterval)
  | command {c : Console} {line : String} : Reached admits size c → admits line →
      NeverCalls "eewrite" (doCommand line) c → Reached admits size (doCommand line c)
  | pass {c : Console} : Reached admits size c →
      NeverCalls "eewrite" (fun c => (runBackgroundTasks c).2) c →
      Reached admits size (runBackgroundTasks c).2

theorem Reached.mono {admits admits' : String → Prop} (hadmits : ∀ line, admits line → admits' line)
    {size : Nat} {c : Console} (h : Reached admits size c) : Reached admits' size c := by
  induction h with
  | fresh slots idleInterval hfresh hwrites => exact .fresh slots idleInterval hfresh hwrites
  | command _ hline hnever ih => exact .command ih (hadmits _ hline) hnever
  | pass _ hnever ih => exact .pass ih hnever

/-! ### Commands and passes -/

section Commands
variable {t : FunctionTable} {J : Storage → Prop} {admits : String → Prop}

theorem report_within {c : Console} (e : CommandError) (h : Within t J c) :
    Within t J (c.report e) := h

theorem doCommand_within (inv : Invariant admits J)
    (ht : ∀ name f, t.lookup? name = some f → FunctionKeeps J f) {line : String}
    (hline : admits line) {c : Console} (h : Within t J c) : Within t J (doCommand line c) := by
  have hend := execute_keeps inv ht hline { c with depth := 0 } h
  unfold doCommand
  cases hrun : execute line { c with depth := 0 } with
  | ok v c' =>
      rw [hrun] at hend
      exact hend
  | error e c' =>
      rw [hrun] at hend
      exact report_within e hend

theorem runTask_within (inv : Invariant admits J)
    (ht : ∀ name f, t.lookup? name = some f → FunctionKeeps J f) (began : Millis) (id : Nat)
    {c : Console} (h : Within t J c) : Within t J (runTask began c id) := by
  unfold runTask
  split
  · exact h
  split
  · exact h
  rename_i body hbody
  have hend := execute_keeps inv ht (inv.body h.2 hbody) c h
  cases hrun : execute body c with
  | ok v c' =>
      rw [hrun] at hend
      exact hend
  | error e c' =>
      rw [hrun] at hend
      exact report_within e hend

theorem runBackgroundTasks_within (inv : Invariant admits J)
    (ht : ∀ name f, t.lookup? name = some f → FunctionKeeps J f) {c : Console}
    (h : Within t J c) : Within t J (runBackgroundTasks c).2 := by
  have hfold : ∀ (ids : List Nat) (began : Millis) (c : Console), Within t J c →
      Within t J (ids.foldl (runTask began) c) := by
    intro ids began
    induction ids with
    | nil => exact fun c h => h
    | cons id ids ih => exact fun c h => ih _ (runTask_within inv ht began id h)
  exact hfold _ _ _ h

end Commands

/-! ### What the storage holds -/

/-- A text that stands in an admitted line as the body of a definition is an admitted line. -/
def Closed (admits : String → Prop) : Prop :=
  ∀ {name body : String}, Defined admits name body → admits body

/-- A macro that can be stored while admitted lines are run. -/
def Stored (admits : String → Prop) (p : String × String) : Prop :=
  Defined admits p.1 p.2 ∧ p.1 ∉ keywords

/-- A storage of a size that holds such macros only. -/
def Stores (admits : String → Prop) (size : Nat) (s : Storage) : Prop :=
  s.size = size ∧ ∃ m, s.Holds m ∧ ∀ p ∈ m, Stored admits p

theorem Defined.printable {admits : String → Prop} {name body : String}
    (h : Defined admits name body) : Printable name body := by
  obtain ⟨line, ts, -, htokens, hdef⟩ := h
  exact (printable_of_definition htokens hdef).1

theorem nulFree_of_isName {name : String} (h : IsName name.toList) : Storage.NulFree name := by
  obtain ⟨first, more, heq, hfirst, hmore⟩ := h
  intro hmem
  rw [heq, List.mem_cons] at hmem
  rcases hmem with rfl | hmem
  · exact absurd hfirst (by decide)
  · exact absurd (hmore _ hmem) (by decide)

/-- **The macros stored are such as lines define**: it is what a storage keeps whatever is run. -/
theorem invariant_stores {admits : String → Prop} (hclosed : Closed admits) (size : Nat) :
    Invariant admits (Stores admits size) where
  define {s s' name body} := by
    rintro ⟨hsize, m, hm, hstored⟩ hdef hword hnul hdefine
    have hfree : Storage.NulFree name ∧ Storage.NulFree body :=
      ⟨nulFree_of_isName hdef.printable.isName, hnul⟩
    by_cases hfit : (m.without name).size + MacroList.entrySize (name, body) ≤ s.size
    · obtain ⟨t, ht, hholds, htsize⟩ := hm.define hfree hfit
      rw [hdefine] at ht
      cases ht
      refine ⟨htsize.trans hsize, _, hholds, fun p hp => ?_⟩
      rcases List.mem_append.mp hp with hp | hp
      · exact hstored p (List.mem_of_mem_filter hp)
      · rw [List.mem_singleton.mp hp]
        exact ⟨hdef, hword⟩
    · rw [hm.define_full (by omega)] at hdefine
      cases hdefine
  remove {s s' name} := by
    rintro ⟨hsize, m, hm, hstored⟩ hremove
    by_cases hname : name ∈ m.map (·.1)
    · obtain ⟨t, ht, hholds, htsize⟩ := hm.remove hname
      rw [hremove] at ht
      cases ht
      exact ⟨htsize.trans hsize, _, hholds, fun p hp => hstored p (List.mem_of_mem_filter hp)⟩
    · rw [hm.remove_absent hname] at hremove
      cases hremove
  erase {s} := by
    rintro ⟨hsize, -⟩
    exact ⟨(Storage.size_eraseAll s).trans hsize, [], Storage.holds_eraseAll s, by simp⟩
  body {s name body} := by
    rintro ⟨-, m, hm, hstored⟩ hbody
    rw [Storage.body?_of_holds hm] at hbody
    obtain ⟨front, back, rfl, -⟩ := List.lookup_eq_some_iff.mp hbody
    exact hclosed (hstored (name, body) (by simp)).1

/-- A property that any storage has. -/
theorem invariant_true : Invariant (fun _ => True) fun _ => True :=
  ⟨fun _ _ _ _ _ => trivial, fun _ _ => trivial, fun _ => trivial, fun _ _ => trivial⟩

theorem doCommand_functions (line : String) (c : Console) :
    (doCommand line c).functions = c.functions :=
  (doCommand_within invariant_true (fun _ _ _ _ _ _ => trivial) trivial ⟨rfl, trivial⟩).1

theorem runBackgroundTasks_functions (c : Console) :
    (runBackgroundTasks c).2.functions = c.functions :=
  (runBackgroundTasks_within invariant_true (fun _ _ _ _ _ _ => trivial) ⟨rfl, trivial⟩).1

/-- Where `eewrite` is not called, what the other functions keep is kept. -/
theorem storage_of_neverCalls {J : Storage → Prop} {act : Console → Console} {c : Console}
    (hwrites : c.functions.WritesOnlyBy "eewrite")
    (hact : ∀ t : FunctionTable, (∀ name f, t.lookup? name = some f → FunctionKeeps J f) →
      ∀ c, Within t J c → Within t J (act c))
    (hnever : NeverCalls "eewrite" act c) (hJ : J c.host.storage) : J (act c).host.storage := by
  let idle : Function := fun _ => return 0
  have hidle : LeavesStorage idle := Hardware.leavesStorage_const 0
  have hend := hact (c.functions.replace "eewrite" idle)
    (fun name f hf => (hwrites.leavesStorage hidle hf).keeps J) (c.replace "eewrite" idle) ⟨rfl, hJ⟩
  rw [hnever idle] at hend
  exact hend.2

/-- **What every console reached has stored.** -/
theorem Reached.stores {admits : String → Prop} (hclosed : Closed admits) {size : Nat} {c : Console}
    (h : Reached admits size c) :
    c.functions.WritesOnlyBy "eewrite" ∧ Stores admits size c.host.storage := by
  have inv := invariant_stores hclosed size
  induction h with
  | @fresh host functions slots idleInterval hfresh hwrites =>
      refine ⟨hwrites, ?_⟩
      show Stores admits size host.storage
      rw [hfresh]
      exact ⟨Storage.size_fresh size, [], Storage.holds_fresh size, by simp⟩
  | @command c line _ hline hnever ih =>
      refine ⟨(doCommand_functions line c).symm ▸ ih.1, ?_⟩
      exact storage_of_neverCalls ih.1 (fun t ht c hc => doCommand_within inv ht hline hc)
        hnever ih.2
  | @pass c _ hnever ih =>
      refine ⟨(runBackgroundTasks_functions c).symm ▸ ih.1, ?_⟩
      exact storage_of_neverCalls ih.1 (fun t ht c hc => runBackgroundTasks_within inv ht hc)
        hnever ih.2

/-! ### In the middle of a line -/

/-- The console when the first tokens of a line have been run. -/
def midway (levels : Nat) (ts : List Token) (c : Console) : Console :=
  endState (runTokens (call levels) (.num 0) ts c)

/-- **The moments of a session.**  A console between two lines, or one in the middle of a line,
where some first tokens of it have been run; the line may also be that of a stored macro, which
another line calls or a background pass runs.  All but the storage and the functions may have
changed since: clocks were read, tasks started, calls opened, texts printed. -/
inductive Moment (admits : String → Prop) (size : Nat) : Console → Prop where
  | between {c : Console} : Reached admits size c → Moment admits size c
  | within {c : Console} {line : String} {ts us : List Token} (levels : Nat) :
      Moment admits size c → (admits line ∨ ∃ name, c.host.storage.body? name = some line) →
      tokenize line = .ok (ts ++ us) → NeverCalls "eewrite" (midway levels ts) c →
      Moment admits size (midway levels ts c)
  | aside {c d : Console} : Moment admits size c → d.functions = c.functions →
      d.host.storage = c.host.storage → Moment admits size d

theorem Moment.mono {admits admits' : String → Prop} (hadmits : ∀ line, admits line → admits' line)
    {size : Nat} {c : Console} (h : Moment admits size c) : Moment admits' size c := by
  induction h with
  | between h => exact .between (h.mono hadmits)
  | within levels _ hline htokens hnever ih =>
      exact .within levels ih (hline.imp_left (hadmits _)) htokens hnever
  | aside _ hfunctions hstorage ih => exact .aside ih hfunctions hstorage

theorem midway_within {t : FunctionTable} {J : Storage → Prop} {admits : String → Prop}
    (inv : Invariant admits J) (ht : ∀ name f, t.lookup? name = some f → FunctionKeeps J f)
    {line : String} {ts us : List Token} (hline : admits line)
    (htokens : tokenize line = .ok (ts ++ us)) (levels : Nat) {c : Console} (h : Within t J c) :
    Within t J (midway levels ts c) :=
  runTokens_keeps inv (call_keeps inv ht levels) hline htokens _ c h

/-- What has been stored at any moment. -/
theorem Moment.stores {admits : String → Prop} (hclosed : Closed admits) {size : Nat} {c : Console}
    (h : Moment admits size c) :
    c.functions.WritesOnlyBy "eewrite" ∧ Stores admits size c.host.storage := by
  have inv := invariant_stores hclosed size
  induction h with
  | between h => exact h.stores hclosed
  | @within c line ts us levels _ hline htokens hnever ih =>
      have hadmits : admits line := by
        rcases hline with hline | ⟨name, hbody⟩
        · exact hline
        · exact inv.body ih.2 hbody
      have hfunctions : (midway levels ts c).functions = c.functions :=
        (midway_within invariant_true (fun _ _ _ _ _ _ => trivial) trivial htokens levels
          ⟨rfl, trivial⟩).1
      refine ⟨hfunctions.symm ▸ ih.1, ?_⟩
      exact storage_of_neverCalls ih.1
        (fun t ht c hc => midway_within inv ht hadmits htokens levels hc) hnever ih.2
  | @aside c d _ hfunctions hstorage ih =>
      rw [hfunctions, hstorage]
      exact ih

end Console

end BoardConsole
