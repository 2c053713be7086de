import BoardConsole.Proofs.Console.Grammar
import BoardConsole.Proofs.Console.Reached

/-!
# Console — The listing can be run again

The listing is made of lines that define the stored macros (`listing_of_holds`).  Run one after
another over a fresh storage of the same size they fit, since their first ones take no more room
than all of them, and so they build up the list of macros that the storage held (`replay_lines`).

* `listing_replays`: this is so for every console that is reached.
-/

namespace BoardConsole

/-- The line that defines a macro. -/
def MacroList.line (p : String × String) : String := "function " ++ p.1 ++ " \x7b" ++ p.2 ++ "\x7d;"

/-- The lines of the listing. -/
def Host.listing (h : Host) : List String := h.storage.entries.map definitionLine

theorem Host.printListing_eq (h : Host) : h.printListing = h.listing.foldl emitLine h := by
  rw [listing, List.foldl_map]
  rfl

theorem Host.listing_of_holds {h : Host} {m : MacroList} (hm : h.storage.Holds m) :
    h.listing = m.map MacroList.line := by
  have hlines : h.listing
      = (h.storage.entries.map fun entry => (entry.name, entry.body)).map MacroList.line := by
    rw [listing, List.map_map]
    rfl
  rw [hlines, Storage.entries_of_holds hm, MacroList.map_layout]

/-- A storage is determined by its size and what it holds. -/
theorem Storage.eq_of_holds {s t : Storage} {m : MacroList} (hs : s.Holds m) (ht : t.Holds m)
    (hsize : s.size = t.size) : s = t := by
  have hbytes : s.bytes = t.bytes := by rw [hs.bytes_eq, ht.bytes_eq, hsize]
  cases s
  cases t
  cases hbytes
  rfl

namespace Console
open Script Program Lexer

/-- Runs lines in order, up to the first error. -/
def replay (lines : List String) : Action Unit :=
  lines.forM fun line => do
    let _ ← execute line

/-- The console with another storage. -/
def withStorage (c : Console) (s : Storage) : Console :=
  { c with host := { c.host with storage := s } }

/-! ### One line -/

theorem toList_line (p : String × String) :
    (MacroList.line p).toList
      = "function ".toList ++ p.1.toList ++ " \x7b".toList ++ (p.2.toList ++ '}' :: [';']) := by
  simp [MacroList.line]

/-- The macros whose lines define them. -/
def Listable (p : String × String) : Prop :=
  Printable p.1 p.2 ∧ p.1 ∉ keywords ∧ Storage.NulFree p.2

theorem tokenize_line {p : String × String} (h : Printable p.1 p.2) :
    tokenize (MacroList.line p) = .ok (definition p.1 p.2 ++ [.semi]) := by
  rw [tokenize, toList_line, tokens_definition h]
  have hsemi : tokens [';'] = .ok [.semi] := by cbv
  rw [hsemi]
  rfl

/-- A definition that is not refused goes to the storage, and changes nothing else. -/
theorem define_eq {name body : String} (hword : name ∉ keywords) (hnul : Storage.NulFree body)
    (c : Console) :
    define name body c = match c.host.storage.define name body with
      | .ok s    => .ok () (c.withStorage s)
      | .error e => .error (.host e) c := by
  have hword : keywords.contains name = false := by simpa using hword
  have hnul : body.contains '\x00' = false := by simpa [Storage.NulFree] using hnul
  unfold Console.define
  rw [hword, hnul]
  cases hdefine : c.host.storage.define name body <;>
    simp [hostAction, bind, EStateM.bind, get, getThe, MonadStateOf.get, EStateM.get,
      MonadExcept.ofExcept, hdefine, set, EStateM.set, pure, EStateM.pure, throw, throwThe,
      MonadExceptOf.throw, EStateM.throw, withStorage]

theorem define_ok {p : String × String} (h : Listable p) {c : Console} {s : Storage}
    (hdefine : c.host.storage.define p.1 p.2 = .ok s) :
    define p.1 p.2 c = .ok () (c.withStorage s) := by
  rw [define_eq h.2.1 h.2.2, hdefine]

/-- A line that is one definition. -/
def Defines (line : String) (p : String × String) : Prop :=
  ∃ ts, tokenize line = .ok ts ∧ IsProgram ts [.define p.1 p.2]

/-- **A line that is one definition stores its macro**, and does nothing else. -/
theorem execute_of_defines {line : String} {p : String × String} (hline : Defines line p)
    (h : Listable p) {c : Console} {s : Storage}
    (hdefine : c.host.storage.define p.1 p.2 = .ok s) :
    execute line c = .ok (.num 0) (c.withStorage s) := by
  obtain ⟨ts, htokens, hprogram⟩ := hline
  rw [execute_eq htokens, runTokens_eq, ofTokens_of_isProgram hprogram]
  simp [runProgram, runStatement, bind, EStateM.bind, define_ok h hdefine, pure, EStateM.pure]

/-- A line that is one removal. -/
def Removes (line name : String) : Prop :=
  ∃ ts, tokenize line = .ok ts ∧ IsProgram ts [.remove name]

/-- **A line that is one removal takes its macro out**, and does nothing else. -/
theorem execute_of_removes {line name : String} (hline : Removes line name) {c : Console}
    {s : Storage} (hremove : c.host.storage.remove? name = some s) :
    execute line c = .ok (.num 0) (c.withStorage s) := by
  obtain ⟨ts, htokens, hprogram⟩ := hline
  have hrun : remove name c = .ok () (c.withStorage s) := by
    simp [remove, bind, EStateM.bind, get, getThe, MonadStateOf.get, EStateM.get, hremove, set,
      EStateM.set, withStorage]
  rw [execute_eq htokens, runTokens_eq, ofTokens_of_isProgram hprogram]
  simp [runProgram, runStatement, bind, EStateM.bind, hrun, pure, EStateM.pure]

/-- A line that is typed as one definition, of a macro that is not refused. -/
theorem listable_of_tokens {line : String} {p : String × String}
    (htokens : tokenize line = .ok (definition p.1 p.2)) (hword : p.1 ∉ keywords)
    (hnul : Storage.NulFree p.2) : Defines line p ∧ Listable p :=
  ⟨⟨_, htokens, .last (.define p.1 p.2)⟩,
    (printable_of_definition htokens (List.infix_refl _)).1, hword, hnul⟩

/-- A line of the listing is one definition. -/
theorem defines_line {p : String × String} (h : Printable p.1 p.2) : Defines (MacroList.line p) p :=
  ⟨_, tokenize_line h, .more (.define p.1 p.2) .nil⟩

/-- Listing is printing the lines of the listing. -/
theorem execute_ls (c : Console) :
    execute "ls" c = .ok (.num 0) { c with host := c.host.listing.foldl Host.emitLine c.host } := by
  have htokens : tokenize "ls" = .ok [.ident "ls"] := by cbv
  rw [execute_eq htokens, runTokens_eq, ofTokens_of_isProgram (.last .list),
    ← Host.printListing_eq]
  rfl

/-! ### The whole listing -/

theorem withStorage_withStorage (c : Console) (s t : Storage) :
    (c.withStorage s).withStorage t = c.withStorage t := rfl

theorem replay_cons {line : String} {c c' : Console} {v : Arg} (h : execute line c = .ok v c')
    (lines : List String) : replay (line :: lines) c = replay lines c' := by
  show EStateM.bind (do let _ ← execute line) _ c = _
  simp [EStateM.bind, bind, h, pure, EStateM.pure]
  rfl

/-- The first of some macros that fit all together is stored behind those that are there. -/
theorem define_next {pre post : MacroList} {p : String × String} (hp : Listable p) {s : Storage}
    (h : s.Holds pre) (hdistinct : ((pre ++ p :: post).map (·.1)).Nodup)
    (hfits : (pre ++ p :: post).size ≤ s.size) :
    ∃ t, s.define p.1 p.2 = .ok t ∧ t.Holds (pre ++ [p]) ∧ t.size = s.size := by
  have hname : p.1 ∉ pre.map (·.1) := by
    rw [List.map_append, List.map_cons, List.nodup_middle, List.nodup_cons] at hdistinct
    exact fun hmem => hdistinct.1 (List.mem_append_left _ hmem)
  have hfit : (pre.without p.1).size + MacroList.entrySize (p.1, p.2) ≤ s.size := by
    rw [MacroList.without_of_notMem hname]
    rw [MacroList.size_append, MacroList.size_cons] at hfits
    show pre.size + MacroList.entrySize p ≤ _
    omega
  obtain ⟨t, hdefine, ht, hsize⟩ := h.define ⟨nulFree_of_isName hp.1.isName, hp.2.2⟩ hfit
  rw [MacroList.without_of_notMem hname] at ht
  exact ⟨t, hdefine, ht, hsize⟩

/-- **Running the lines of macros builds the list of them up**, where they fit all together. -/
theorem replay_lines {pre post : MacroList} (hpost : ∀ p ∈ post, Listable p) {c : Console}
    (h : c.host.storage.Holds pre) (hdistinct : ((pre ++ post).map (·.1)).Nodup)
    (hfits : (pre ++ post).size ≤ c.host.storage.size) :
    ∃ s, replay (post.map MacroList.line) c = .ok () (c.withStorage s) ∧ s.Holds (pre ++ post) ∧
      s.size = c.host.storage.size := by
  induction post generalizing pre c with
  | nil => exact ⟨c.host.storage, rfl, by rwa [List.append_nil], rfl⟩
  | cons p post ih =>
      rw [List.forall_mem_cons] at hpost
      obtain ⟨s, hdefine, hs, hsize⟩ := define_next hpost.1 h hdistinct hfits
      rw [List.append_cons] at hdistinct hfits ⊢
      obtain ⟨t, hreplay, ht, htsize⟩ := ih hpost.2 (c := c.withStorage s) hs hdistinct
        (by show _ ≤ s.size; rwa [hsize])
      refine ⟨t, ?_, ht, htsize.trans hsize⟩
      rw [List.map_cons, replay_cons (execute_of_defines (defines_line hpost.1.1) hpost.1 hdefine),
        hreplay, withStorage_withStorage]

theorem listable_of_stored {admits : String → Prop} {s : Storage} {m : MacroList}
    (hm : s.Holds m) (hstored : ∀ p ∈ m, Stored admits p) : ∀ p ∈ m, Listable p :=
  fun p hp => ⟨(hstored p hp).1.printable, (hstored p hp).2, (hm.nulFree p hp).2⟩

/-- A line that holds no newline. -/
def OneLine (line : String) : Prop := '\n' ∉ line.toList

instance (line : String) : Decidable (OneLine line) := inferInstanceAs (Decidable ('\n' ∉ _))

theorem closed_oneLine : Closed OneLine := by
  rintro name body ⟨line, ts, hline, htokens, hdef⟩ hmem
  exact hline ((printable_of_definition htokens hdef).2.1.subset hmem)

theorem oneLine_line {p : String × String} (h : Printable p.1 p.2) (hbody : OneLine p.2) :
    OneLine (MacroList.line p) := by
  intro hmem
  rw [toList_line] at hmem
  simp only [List.mem_append, List.mem_cons, List.not_mem_nil, or_false] at hmem
  obtain ⟨first, more, hname, hfirst, hmore⟩ := h.isName
  rcases hmem with ((hmem | hmem) | hmem) | hmem | hmem | hmem
  · exact absurd hmem (by decide)
  · rw [hname, List.mem_cons] at hmem
    rcases hmem with rfl | hmem
    · exact absurd hfirst (by decide)
    · exact absurd (hmore _ hmem) (by decide)
  · exact absurd hmem (by decide)
  · exact hbody hmem
  · exact absurd hmem (by decide)
  · exact absurd hmem (by decide)

/-- **The listing can be run again.**  For every console reached by lines without a newline and by
background passes, without a call of `eewrite`: `ls` prints lines without a newline, and running
them in order on a fresh console with as large a storage ends without an error, prints nothing, and
leaves the storage as it is on the first console. -/
theorem listing_replays {size : Nat} {c : Console} (h : Reached OneLine size c) :
    execute "ls" c = .ok (.num 0) { c with host := c.host.listing.foldl Host.emitLine c.host } ∧
    (∀ line ∈ c.host.listing, OneLine line) ∧
    ∀ d : Console, d.host.storage = .fresh size →
      replay c.host.listing d = .ok () (d.withStorage c.host.storage) := by
  obtain ⟨-, hsize, m, hm, hstored⟩ := h.stores closed_oneLine
  have hlistable := listable_of_stored hm hstored
  rw [Host.listing_of_holds hm]
  refine ⟨?_, ?_, fun d hd => ?_⟩
  · rw [← Host.listing_of_holds hm, execute_ls]
  · rw [List.forall_mem_map]
    exact fun p hp => oneLine_line (hlistable p hp).1 (closed_oneLine (hstored p hp).1)
  · have hempty : d.host.storage.Holds [] := hd ▸ Storage.holds_fresh size
    have hroom : d.host.storage.size = c.host.storage.size := by rw [hd, Storage.size_fresh, hsize]
    obtain ⟨s, hreplay, hs, hsSize⟩ := replay_lines hlistable hempty hm.distinct
      (by rw [hroom]; exact hm.fits)
    rw [hreplay, Storage.eq_of_holds hs hm (hsSize.trans hroom)]

/-! ### Lines that edit the storage -/

/-- A line that takes one storage to another, and does nothing else. -/
def Edits (line : String) (s t : Storage) : Prop :=
  ∀ c : Console, c.host.storage = s → execute line c = .ok (.num 0) (c.withStorage t)

theorem edits_of_defines {line : String} {p : String × String} (hline : Defines line p)
    (h : Listable p) {s t : Storage} (hdefine : s.define p.1 p.2 = .ok t) : Edits line s t := by
  rintro c rfl
  exact execute_of_defines hline h hdefine

theorem edits_of_removes {line name : String} (hline : Removes line name) {s t : Storage}
    (hremove : s.remove? name = some t) : Edits line s t := by
  rintro c rfl
  exact execute_of_removes hline hremove

theorem Edits.doCommand_eq {line : String} {c : Console} {t : Storage}
    (h : Edits line c.host.storage t) :
    doCommand line c = { c with depth := 0 }.withStorage t := by
  unfold doCommand
  rw [h { c with depth := 0 } rfl]

/-- A line that edits the storage calls nothing. -/
theorem Edits.neverCalls {line : String} {c : Console} {t : Storage}
    (h : Edits line c.host.storage t) (name : String) : NeverCalls name (doCommand line) c := by
  intro f
  have hother : Edits line (c.replace name f).host.storage t := h
  rw [hother.doCommand_eq, h.doCommand_eq]
  rfl

/-- A console that is reached, and what its storage holds. -/
def ReachedHolding (admits : String → Prop) (size : Nat) (m : MacroList) (c : Console) : Prop :=
  Reached admits size c ∧ c.host.storage.Holds m ∧ c.host.storage.size = size

section Edit
variable {admits : String → Prop} {size : Nat} {m : MacroList} {c : Console}

theorem ReachedHolding.edit {line : String} (h : ReachedHolding admits size m c) (hadmits : admits line)
    {t : Storage} (hedits : Edits line c.host.storage t) {m' : MacroList} (ht : t.Holds m')
    (hsize : t.size = c.host.storage.size) :
    ReachedHolding admits size m' (doCommand line c) := by
  have hstorage : (doCommand line c).host.storage = t := by
    rw [hedits.doCommand_eq]
    rfl
  refine ⟨.command h.1 hadmits (hedits.neverCalls _), ?_, ?_⟩
  · rwa [hstorage]
  · rw [hstorage, hsize, h.2.2]

/-- A line that is one definition, of a macro that fits. -/
theorem ReachedHolding.define (h : ReachedHolding admits size m c) (line : String)
    (p : String × String) (hadmits : admits line)
    (htokens : tokenize line = .ok (definition p.1 p.2)) (hword : p.1 ∉ keywords)
    (hnul : Storage.NulFree p.2)
    (hfit : (m.without p.1).size + MacroList.entrySize p ≤ size) :
    ReachedHolding admits size (m.without p.1 ++ [p]) (doCommand line c) := by
  obtain ⟨hline, hp⟩ := listable_of_tokens htokens hword hnul
  obtain ⟨t, hdefine, ht, hsize⟩ := h.2.1.define ⟨nulFree_of_isName hp.1.isName, hp.2.2⟩
    (h.2.2 ▸ hfit)
  exact h.edit hadmits (edits_of_defines hline hp hdefine) ht hsize

/-- A line that is one removal, of a macro that is there. -/
theorem ReachedHolding.remove (h : ReachedHolding admits size m c) (line name : String)
    (hadmits : admits line) (hline : Removes line name) (hname : name ∈ m.map (·.1)) :
    ReachedHolding admits size (m.without name) (doCommand line c) := by
  obtain ⟨t, hremove, ht, hsize⟩ := h.2.1.remove hname
  exact h.edit hadmits (edits_of_removes hline hremove) ht hsize

end Edit

/-- Definitions with blanks around their bodies, one of them again, and a removal. -/
def edits : List String :=
  ["function a { 1 }", "function b {2}", "function a { 3; 4 }", "function c{}", "rm b"]

/-- The console after some lines. -/
def commands (lines : List String) (c : Console) : Console :=
  lines.foldl (fun c line => doCommand line c) c

/-- In a storage of sixteen bytes. -/
theorem listing_replays_edits :
    let c := small.withStorage (.fresh 16)
    Reached OneLine 16 (commands edits c) ∧
      (commands edits c).host.listing = ["function a {3; 4};", "function c {};"] ∧
      replay ["function a {3; 4};", "function c {};"] c
        = .ok () (c.withStorage (commands edits c).host.storage) := by
  intro c
  have hfresh : ReachedHolding OneLine 16 [] c :=
    ⟨.fresh 2 .zero rfl (FunctionTable.writesOnlyBy_standardThrough _), Storage.holds_fresh 16,
      Storage.size_fresh 16⟩
  have hfirst := hfresh.define "function a { 1 }" ("a", "1") (by decide) (by cbv) (by decide)
    (by decide) (by decide)
  have hsecond := hfirst.define "function b {2}" ("b", "2") (by decide) (by cbv) (by decide)
    (by decide) (by decide)
  have hagain := hsecond.define "function a { 3; 4 }" ("a", "3; 4") (by decide) (by cbv) (by decide)
    (by decide) (by decide)
  have hthird := hagain.define "function c{}" ("c", "") (by decide) (by cbv) (by decide)
    (by decide) (by decide)
  obtain ⟨hreached, hholds, -⟩ := hthird.remove "rm b" "b" (by decide)
    ⟨[.ident "rm", .ident "b"], by cbv, .last (.remove "b")⟩ (by decide)
  have hlisting : (commands edits c).host.listing = ["function a {3; 4};", "function c {};"] :=
    (Host.listing_of_holds hholds).trans (by decide)
  have hreplay := (listing_replays hreached).2.2 c rfl
  rw [show (doCommand "rm b" _).host.listing = _ from hlisting] at hreplay
  exact ⟨hreached, hlisting, hreplay⟩

end Console

end BoardConsole
