import BoardConsole.Proofs.Console.Loading
import BoardConsole.Proofs.Output.Capture

/-!
# Console — Saving and loading

At any moment of a session whose lines come through a loop with some limit, the listing can be
saved; and the same loop, on a fresh board of the same size, can be given the file.

* `save_then_load`: the storage is restored exactly where every line of the listing has at most one
  byte more than the limit, and the file is one that keeps what is written to it.
* `save_then_load_lost`: a line that is within the limit can define a macro whose line in the
  listing is not, and then the macro is lost.

A line that defines a macro has at least eleven characters besides the name and the body, the line
of the listing has thirteen bytes; so only macros that were typed with next to no blanks, in a line
of nearly the length of the limit, or whose body holds characters that were replaced, can be lost.
-/

namespace BoardConsole.Console
open Script Lexer MacroList Text Foreground
open LineBuffer (Typed)

/-! ### Saving -/

/-- The file that a call of `save` writes. -/
def savedName (args : List Arg) (h : Host) : String := (Arg.text? args 1).getD h.defaultFile

theorem callFunction_save (args : List Arg) (c : Console) :
    callFunction System.save args c
      = .ok (.num (if (c.host.save Host.printListing (savedName args c.host)).1 then 1 else 0))
        { c with host := (c.host.save Host.printListing (savedName args c.host)).2 } := rfl

/-- Where `save` answers one, the file can be opened; it has the lines of the listing, or else it is
the null device. -/
theorem openInput?_of_save {args : List Arg} {c c' : Console}
    (h : callFunction System.save args c = .ok (.num 1) c')
    (hfull : c.host.volume.locate (savedName args c.host) ≠ .ok (.special .full)) :
    (∃ path, c.host.volume.locate (savedName args c.host) = .ok (.file path) ∧
      c'.host.volume.openInput? (savedName args c.host)
        = some (.ofBytes (written c.host.listing))) ∨
    (c.host.volume.locate (savedName args c.host) = .ok (.special .null) ∧
      c'.host.volume.openInput? (savedName args c.host) = some (.ofBytes (written []))) := by
  rw [callFunction_save] at h
  generalize savedName args c.host = name at h hfull ⊢
  injection h with hvalue hc'
  subst hc'
  cases hplace : c.host.volume.locate name with
  | error fault =>
      rw [Host.save_fault hplace] at hvalue
      exact absurd hvalue (by decide)
  | ok place =>
      cases place with
      | file path => exact .inl ⟨path, rfl, (Host.save_file hplace).2⟩
      | special device =>
          cases device with
          | null => exact .inr ⟨rfl, Host.save_null hplace⟩
          | full => exact absurd hplace hfull

/-! ### Loading -/

theorem value_foldl_doCommand (lines : List String) (lock : ExecutionLock Console) :
    (lines.foldl (fun lock line => lock.doCommand line) lock).value
      = lines.foldl (fun c line => doCommand line c) lock.value := by
  induction lines generalizing lock with
  | nil => rfl
  | cons line lines ih => exact ih _

/-- What is left of a console by the lines of an input, read by a loop with a limit. -/
def load (maxLen : Nat) (input : Input) (c : Console) : Console :=
  (runLocked maxLen input (.guard c)).2.value

theorem load_written {maxLen : Nat} {lines : List String}
    (h : ∀ line ∈ lines, '\n' ∉ line.toList) (c : Console) :
    load maxLen (.ofBytes (written lines)) c
      = (handedOver maxLen lines).foldl (fun c line => doCommand line c) c := by
  rw [load, runLocked, run_written h, value_foldl_doCommand]
  rfl

/-- A line that a loop with a limit can hand over: of so many characters, and no newline. -/
def Short (maxLen : Nat) (line : String) : Prop := line.toList.length ≤ maxLen ∧ OneLine line

theorem short_of_typed {maxLen : Nat} (line : String) (h : Typed maxLen line) : Short maxLen line :=
  ⟨h.length_le, h.oneLine⟩

theorem closed_short (maxLen : Nat) : Closed (Short maxLen) := by
  rintro name body ⟨line, ts, ⟨hlen, hline⟩, htokens, hdef⟩
  obtain ⟨-, hbody, hlong⟩ := printable_of_definition htokens hdef
  exact ⟨by omega, fun hmem => hline (hbody.subset hmem)⟩

theorem length_of_defined {maxLen : Nat} {name body : String}
    (h : Defined (Short maxLen) name body) : name.toList.length + 11 ≤ maxLen := by
  obtain ⟨line, ts, ⟨hlen, -⟩, htokens, hdef⟩ := h
  obtain ⟨-, -, hlong⟩ := printable_of_definition htokens hdef
  omega

/-- **What loading restores.**  From the listing of a storage, the macros whose line has at most one
byte more than the limit. -/
theorem load_stored {maxLen size : Nat} {m : MacroList} {c d : Console}
    (hm : c.host.storage.Holds m) (hstored : ∀ p ∈ m, Stored (Short maxLen) p)
    (hsize : c.host.storage.size = size) (hd : d.host.storage = .fresh size) :
    (load maxLen (.ofBytes (written c.host.listing)) d).host.storage.Holds
        (m.filter (Restored maxLen ·)) ∧
      (load maxLen (.ofBytes (written c.host.listing)) d).host.storage.size = size := by
  have hlistable := listable_of_stored hm hstored
  have honeLine : ∀ line ∈ m.map MacroList.line, '\n' ∉ line.toList := by
    rw [List.forall_mem_map]
    exact fun p hp => oneLine_line (hlistable p hp).1 (closed_short maxLen (hstored p hp).1).2
  have hempty : d.host.storage.Holds [] := hd ▸ Storage.holds_fresh size
  have hroom : d.host.storage.size = size := by rw [hd, Storage.size_fresh]
  have hlines : ∀ p ∈ m, Listable p ∧ p.1.toList.length + 11 ≤ maxLen :=
    fun p hp => ⟨hlistable p hp, length_of_defined (hstored p hp).1⟩
  have hload := load_listing hlines hempty hm.distinct (by rw [hroom, ← hsize]; exact hm.fits)
  rw [Host.listing_of_holds hm, load_written honeLine]
  exact ⟨hload.1, hload.2.trans hroom⟩

/-- The listing of a storage restores it where every line has at most one byte too many, and only
there. -/
theorem load_listing_iff {maxLen size : Nat} {m : MacroList} {c d : Console}
    (hm : c.host.storage.Holds m) (hstored : ∀ p ∈ m, Stored (Short maxLen) p)
    (hsize : c.host.storage.size = size) (hd : d.host.storage = .fresh size) :
    (load maxLen (.ofBytes (written c.host.listing)) d).host.storage = c.host.storage ↔
      ∀ line ∈ c.host.listing, Utf8.size line ≤ maxLen + 1 := by
  obtain ⟨hload, hloadSize⟩ := load_stored hm hstored hsize hd
  have hall : (∀ line ∈ c.host.listing, Utf8.size line ≤ maxLen + 1) ↔
      m.filter (Restored maxLen ·) = m := by
    rw [Host.listing_of_holds hm, List.forall_mem_map, List.filter_eq_self]
    simp only [decide_eq_true_eq]
    rfl
  rw [hall]
  constructor
  · intro heq
    exact (heq ▸ hload).unique hm
  · intro hfilter
    rw [hfilter] at hload
    exact Storage.eq_of_holds hload hm (hloadSize.trans hsize.symm)

/-- An empty file restores a storage that holds nothing, and no other. -/
theorem load_nil_iff {maxLen size : Nat} {m : MacroList} {c d : Console}
    (hm : c.host.storage.Holds m) (hsize : c.host.storage.size = size)
    (hd : d.host.storage = .fresh size) :
    (load maxLen (.ofBytes (written [])) d).host.storage = c.host.storage ↔ c.host.listing = [] := by
  have hload : (load maxLen (.ofBytes (written [])) d).host.storage = .fresh size := by
    rw [load_written (by simp), handedOver]
    exact hd
  rw [hload, Host.listing_of_holds hm, List.map_eq_nil_iff]
  constructor
  · intro heq
    exact hm.unique (heq ▸ Storage.holds_fresh size)
  · rintro rfl
    exact Storage.eq_of_holds (Storage.holds_fresh size) hm
      ((Storage.size_fresh size).trans hsize.symm)

/-- **Saving and loading restores the macros exactly where their lines fit.**  At any moment of a
session of lines that a loop with a limit reads, without a call of `eewrite`: if `save` answers one,
the file can be opened, and the loop with that limit over it, on a fresh board of the same size,
leaves the storage as it was saved if and only if every line of the listing has at most one byte
more than the limit, and the file is a regular one or the listing is empty.  The device that takes
nothing is left out: reading it never ends. -/
theorem save_then_load {maxLen size : Nat} {c c' : Console} {args : List Arg}
    (h : Moment (Typed maxLen) size c) (hsave : callFunction System.save args c = .ok (.num 1) c')
    (hfull : c.host.volume.locate (savedName args c.host) ≠ .ok (.special .full)) :
    ∃ input, c'.host.volume.openInput? (savedName args c.host) = some input ∧
      ∀ d : Console, d.host.storage = .fresh size →
        ((load maxLen input d).host.storage = c.host.storage ↔
          (∀ line ∈ c.host.listing, Utf8.size line ≤ maxLen + 1) ∧
            (c.host.listing = [] ∨
              ∃ path, c.host.volume.locate (savedName args c.host) = .ok (.file path))) := by
  obtain ⟨-, hsize, m, hm, hstored⟩ := (h.mono short_of_typed).stores (closed_short maxLen)
  rcases openInput?_of_save hsave hfull with ⟨path, hplace, hopen⟩ | ⟨hplace, hopen⟩
  · refine ⟨_, hopen, fun d hd => ?_⟩
    rw [load_listing_iff hm hstored hsize hd]
    exact ⟨fun hfits => ⟨hfits, .inr ⟨path, hplace⟩⟩, And.left⟩
  · refine ⟨_, hopen, fun d hd => ?_⟩
    rw [load_nil_iff hm hsize hd]
    constructor
    · intro hlisting
      exact ⟨by simp [hlisting], .inl hlisting⟩
    · rintro ⟨-, hlisting | ⟨path, hfile⟩⟩
      · exact hlisting
      · rw [hplace] at hfile
        cases hfile

theorem locate_m : Volume.empty.locate "m" = .ok (.file ["m"]) := by
  have hcomponents : Volume.components "m" = ["m"] := by cbv
  have hend : Volume.endsInDirectory "m" = false := by cbv
  have hroot : "m".startsWith "/" = false := by cbv
  have hsize : Utf8.size "m" = 1 := by decide
  simp [Volume.locate, Volume.resolve, Volume.walk, hcomponents, hend, hroot, hsize,
    Volume.longestPath, Volume.longestName, Volume.linkTarget?, Volume.normal, Volume.isDirectory,
    Volume.empty, Volume.usualBase, Volume.standingDirectories, Volume.special?]

/-- A macro that is typed in a line of twelve bytes, within a limit of twelve, is lost: its line in
the listing has fourteen. -/
theorem save_then_load_lost :
    Moment (Typed 12) 8 (doCommand "function a{}" small) ∧
    ∃ c' input, callFunction System.save [.str "m"] (doCommand "function a{}" small)
        = .ok (.num 1) c' ∧
      c'.host.volume.openInput? "m" = some input ∧
      (load 12 input small).host.storage ≠ (doCommand "function a{}" small).host.storage := by
  have htokens : tokenize "function a{}" = .ok (definition "a" "") := by cbv
  obtain ⟨hdefines, hp⟩ := listable_of_tokens (p := ("a", "")) htokens (by decide) (by decide)
  obtain ⟨s, hdefine, hs, -⟩ := (Storage.holds_fresh 8).define
    ⟨nulFree_of_isName hp.1.isName, hp.2.2⟩ (by decide)
  have hedits : Edits "function a{}" small.host.storage s := edits_of_defines hdefines hp hdefine
  have htyped : Typed 12 "function a{}" := by
    have hline : Input.newline ∉ Utf8.encode "function a{}" := by decide
    obtain ⟨dropped, hfill⟩ := LineBuffer.fill_ended 12 hline []
    refine ⟨_, by rw [hfill], ?_⟩
    rw [hfill]
    exact LineBuffer.readBack_of_le (by decide) (by decide)
  have hmoment : Moment (Typed 12) 8 (doCommand "function a{}" small) :=
    .between (.command (.fresh 2 .zero rfl (FunctionTable.writesOnlyBy_standardThrough _)) htyped
      (hedits.neverCalls "eewrite"))
  have hend : doCommand "function a{}" small = { small with depth := 0 }.withStorage s :=
    hedits.doCommand_eq
  have hplace : (doCommand "function a{}" small).host.volume.locate "m" = .ok (.file ["m"]) := by
    rw [hend]
    exact locate_m
  have hlisting : (doCommand "function a{}" small).host.listing = ["function a {};"] := by
    rw [Host.listing_of_holds (m := [("a", "")]) (by rw [hend]; exact hs)]
    decide
  have hsave := callFunction_save [.str "m"] (doCommand "function a{}" small)
  rw [show savedName [.str "m"] (doCommand "function a{}" small).host = "m" from rfl,
    (Host.save_file hplace).1, if_pos rfl] at hsave
  obtain ⟨input, hopen, hload⟩ := save_then_load hmoment hsave
    (by rw [show savedName [.str "m"] (doCommand "function a{}" small).host = "m" from rfl, hplace]
        simp)
  refine ⟨hmoment, _, input, hsave, hopen, fun heq => ?_⟩
  have hfits := ((hload small rfl).mp heq).1
  rw [hlisting] at hfits
  exact absurd (hfits _ List.mem_cons_self) (by decide)

end BoardConsole.Console
