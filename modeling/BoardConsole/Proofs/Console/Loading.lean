import BoardConsole.Proofs.Console.Listing
import BoardConsole.Proofs.Lines.Foreground

/-!
# Console — A listing that is loaded

The lines of a listing are written to a file and read back by a loop with some limit for its lines.
A line with one byte more than the limit loses its last semicolon and still defines its macro; a
longer one loses a brace, and with it the macro (`readBack_line`).  So what the loop restores are
the macros whose lines have at most one byte too many: `load_listing`.
-/

namespace BoardConsole
open Text Foreground
open LineBuffer hiding line

namespace MacroList

/-- What stands in front of a macro's body. -/
def header (name : String) : String := "function " ++ name ++ " \x7b"

/-- The definition of a macro, without the semicolon behind it. -/
def bare (p : String × String) : String := header p.1 ++ (p.2 ++ "\x7d")

theorem line_eq_bare (p : String × String) : line p = bare p ++ ";" := by
  have hend : "\x7d;" = "\x7d" ++ ";" := by decide
  simp only [line, bare, header, hend, String.append_assoc]

theorem line_eq_header (p : String × String) : line p = header p.1 ++ (p.2 ++ "\x7d;") := by
  simp only [line, header, String.append_assoc]

/-- The macros that a loop with a limit restores: those whose line has at most one byte too many. -/
def Restored (maxLen : Nat) (p : String × String) : Prop := Utf8.size (line p) ≤ maxLen + 1

instance (maxLen : Nat) (p : String × String) : Decidable (Restored maxLen p) :=
  inferInstanceAs (Decidable (_ ≤ _))

end MacroList

namespace Console
open Script Lexer MacroList

/-! ### The bytes of a line -/

theorem size_of_isName {name : String} (h : IsName name.toList) :
    Utf8.size name = name.toList.length := by
  obtain ⟨first, more, heq, hfirst, hmore⟩ := h
  refine Utf8.size_of_lt fun c hc => ?_
  have hname : isNameChar c = true := by
    rw [heq, List.mem_cons] at hc
    rcases hc with rfl | hc
    · exact isNameChar_of_isNameStart hfirst
    · exact hmore c hc
  exact Nat.lt_of_le_of_lt (toNat_of_isNameChar hname).2 (by decide)

theorem size_header {name : String} (h : IsName name.toList) :
    Utf8.size (header name) = name.toList.length + 11 := by
  have hfront : Utf8.size "function " = 9 := by decide
  have hbrace : Utf8.size " \x7b" = 2 := by decide
  rw [header, Utf8.size_append, Utf8.size_append, size_of_isName h, hfront, hbrace]
  omega

theorem size_bare {p : String × String} (h : IsName p.1.toList) :
    Utf8.size (bare p) = p.1.toList.length + Utf8.size p.2 + 12 := by
  have hbrace : Utf8.size "\x7d" = 1 := by decide
  rw [bare, Utf8.size_append, Utf8.size_append, size_header h, hbrace]
  omega

theorem size_line {p : String × String} (h : IsName p.1.toList) :
    Utf8.size (line p) = p.1.toList.length + Utf8.size p.2 + 13 := by
  have hsemi : Utf8.size ";" = 1 := by decide
  rw [line_eq_bare, Utf8.size_append, size_bare h, hsemi]

theorem unended_header (name : String) : Unended (header name) :=
  Unended.append (by decide) (by decide) _

theorem unended_bare (p : String × String) : Unended (bare p) := by
  rw [bare, ← String.append_assoc]
  exact Unended.append (by decide) (by decide) _

theorem unended_line (p : String × String) : Unended (line p) :=
  Unended.append (by decide) (by decide) _

/-! ### One line that is read back -/

theorem defines_bare {p : String × String} (h : Printable p.1 p.2) : Defines (bare p) p := by
  refine ⟨definition p.1 p.2, ?_, .last (.define p.1 p.2)⟩
  have htoList : (bare p).toList = "function ".toList ++ p.1.toList ++ " \x7b".toList ++
      (p.2.toList ++ ['}']) := by
    simp [bare, header]
  have hend : tokens [] = .ok [] := by cbv
  rw [tokenize, htoList, tokens_definition h, hend]
  rfl

/-- **What is read where the line of a macro was written.**  With at most one byte too many it is
still its definition; otherwise its closing brace is missing. -/
theorem readBack_line {maxLen : Nat} {p : String × String} (h : Printable p.1 p.2)
    (hlen : p.1.toList.length + 11 ≤ maxLen) :
    (Restored maxLen p → Defines (readBack maxLen (line p)) p) ∧
      (¬ Restored maxLen p → tokenize (readBack maxLen (line p)) = .error .missingBrace) := by
  have hsize := size_line h.isName
  constructor
  · intro hfits
    unfold Restored at hfits
    rcases Nat.lt_or_eq_of_le hfits with hless | hless
    · rw [readBack_of_le (unended_line p) (Nat.le_of_lt_succ hless)]
      exact defines_line h
    · have hbare := size_bare h.isName
      rw [line_eq_bare, readBack_of_eq (unended_bare p) (by omega)]
      exact defines_bare h
  · intro hlost
    unfold Restored at hlost
    have hheader := size_header h.isName
    have hroom : Utf8.size (header p.1) ≤ maxLen := by omega
    obtain ⟨kept, hkept, hshort, hread⟩ :=
      readBack_append (unended_header p.1) hroom (p.2 ++ "\x7d;")
    -- so few bytes are kept behind the header that none of them is the brace
    have hbody : kept <+: p.2.toList.flatMap String.utf8EncodeChar := by
      rw [Utf8.encode_append] at hkept
      refine List.prefix_of_prefix_length_le hkept (List.prefix_append _ _) ?_
      have hbytes : (p.2.toList.flatMap String.utf8EncodeChar).length = Utf8.size p.2 := rfl
      rw [hbytes]
      omega
    obtain ⟨front, back, tail, hfront, hchars, htail⟩ := Utf8.decodeChars_of_prefix hbody
    have hother : '}' ∉ tail := fun hmem => absurd (htail _ hmem) (by decide)
    have hheaderChars : (header p.1).toList
        = "function ".toList ++ p.1.toList ++ " \x7b".toList := by
      simp [header]
    rw [tokenize, line_eq_header, hread, hchars, hheaderChars]
    exact tokens_cut h hfront hother

/-- A blank line has no tokens. -/
theorem tokenize_of_isBlankText {line : String} (h : isBlankText line = true) :
    tokenize line = .ok [] := by
  rw [tokenize]
  rw [isBlankText] at h
  generalize line.toList = cs at h
  induction cs with
  | nil => cbv
  | cons c cs ih =>
      rw [List.all_cons, Bool.and_eq_true] at h
      rw [tokens_blank h.1, ih h.2]

/-! ### The whole listing -/

theorem Defines.tokenize_ne {line : String} {p : String × String} (h : Defines line p) :
    tokenize line ≠ .ok [] := by
  obtain ⟨ts, htokens, hprogram⟩ := h
  rw [htokens]
  intro heq
  cases heq
  cases hprogram.unique .nil

theorem handedOver_cons {maxLen : Nat} {text : String}
    (h : tokenize (readBack maxLen text) ≠ .ok []) (lines : List String) :
    handedOver maxLen (text :: lines) = readBack maxLen text :: handedOver maxLen lines := by
  have hblank : isBlankText (readBack maxLen text) = false := by
    rw [Bool.eq_false_iff]
    exact fun hblank => h (tokenize_of_isBlankText hblank)
  simp [handedOver, hblank]

theorem doCommand_of_fault {line : String} {fault : SyntaxFault}
    (h : tokenize line = .error fault) (c : Console) :
    (doCommand line c).host.storage = c.host.storage := by
  have hrun : execute line { c with depth := 0 }
      = .error (.malformed fault) { c with depth := 0 } := by
    simp [execute, runLine, h, bind, EStateM.bind, get, getThe, MonadStateOf.get, EStateM.get,
      throw, throwThe, MonadExceptOf.throw, EStateM.throw]
  unfold doCommand
  rw [hrun]
  rfl

/-- **What a loop restores of a listing.**  From the lines of macros, written one after another, it
stores those macros whose line has at most one byte too many. -/
theorem load_listing {maxLen : Nat} {pre post : MacroList}
    (hpost : ∀ p ∈ post, Listable p ∧ p.1.toList.length + 11 ≤ maxLen) {c : Console}
    (h : c.host.storage.Holds pre) (hdistinct : ((pre ++ post).map (·.1)).Nodup)
    (hfits : (pre ++ post).size ≤ c.host.storage.size) :
    let d := (handedOver maxLen (post.map line)).foldl (fun c line => doCommand line c) c
    d.host.storage.Holds (pre ++ post.filter (Restored maxLen ·)) ∧
      d.host.storage.size = c.host.storage.size := by
  induction post generalizing pre c with
  | nil => exact ⟨by rwa [List.filter_nil, List.append_nil], rfl⟩
  | cons p post ih =>
      rw [List.forall_mem_cons] at hpost
      obtain ⟨⟨hp, hlen⟩, hpost⟩ := hpost
      obtain ⟨hdefines, hfault⟩ := readBack_line hp.1 hlen
      by_cases hrestored : Restored maxLen p
      · -- the macro is stored behind those that are there
        obtain ⟨s, hdefine, hs, hsize⟩ := define_next hp h hdistinct hfits
        rw [List.append_cons, ← hsize] at hfits
        rw [List.append_cons] at hdistinct
        have hline := hdefines hrestored
        have hrest := ih hpost (c := { c with depth := 0 }.withStorage s) hs hdistinct hfits
        rw [List.map_cons, handedOver_cons hline.tokenize_ne, List.foldl_cons,
          (edits_of_defines hline hp hdefine).doCommand_eq, List.filter_cons_of_pos (by simpa),
          List.append_cons]
        exact ⟨hrest.1, hrest.2.trans hsize⟩
      · -- the line fails, and the storage stays as it is
        have htokens := hfault hrestored
        have hstorage := doCommand_of_fault htokens c
        have hsublist := (List.sublist_cons_self p post).append_left pre
        have hroom : (pre ++ post).size ≤ c.host.storage.size := by
          rw [MacroList.size_append, MacroList.size_cons] at hfits
          rw [MacroList.size_append]
          omega
        rw [← hstorage] at h hroom
        have hrest := ih hpost h (hdistinct.sublist (hsublist.map _)) hroom
        rw [List.map_cons, handedOver_cons (by simp [htokens]), List.foldl_cons,
          List.filter_cons_of_neg (by simpa)]
        exact ⟨hrest.1, hrest.2.trans (congrArg _ hstorage)⟩

end Console

end BoardConsole
