import BoardConsole.Proofs.Console.Depth
import BoardConsole.Proofs.Console.Loading
import BoardConsole.Proofs.Script.Nesting
import BoardConsole.Proofs.Storage.History

/-!
# Console — Calling a macro

A macro is stored as the text between the braces of its definition, blanks at its ends removed, and
a call of it reads that text anew.

* `exists_of_execute_definition`: a definition that succeeds changes the storage alone, and what is
  found under the name is read like the text in the definition.
* `execute_stored`: a call runs the body that is found, one call deeper.
* `call_runs_text`: so a macro that has been defined can be called in place of its text.
-/

namespace BoardConsole

/-- A storage that has been changed by macro commands only. -/
def Storage.MacrosOnly (s : Storage) : Prop :=
  ∃ size ops, (∀ op ∈ ops, MacroOp.NulFree op) ∧ s = (Storage.play ops (.fresh size)).2

theorem Storage.MacrosOnly.holds {s : Storage} (h : s.MacrosOnly) : ∃ m, s.Holds m := by
  obtain ⟨size, ops, hops, rfl⟩ := h
  exact ⟨_, (play_refines hops (holds_fresh size)).2.1⟩

/-- A macro that has been stored is found. -/
theorem Storage.Holds.body?_define {s t : Storage} {m : MacroList} (h : s.Holds m)
    {name body : String} (hnul : NulFree name ∧ NulFree body) (hdefine : s.define name body = .ok t) :
    t.body? name = some body := by
  by_cases hfit : (m.without name).size + MacroList.entrySize (name, body) ≤ s.size
  · obtain ⟨t', ht', hholds, -⟩ := h.define hnul hfit
    rw [hdefine] at ht'
    cases ht'
    have hname : name ∉ (m.without name).map (·.1) := by
      simp [MacroList.without]
    rw [body?_of_holds hholds]
    exact MacroList.lookup_of_split hname
  · rw [h.define_full (by omega)] at hdefine
    cases hdefine

namespace Console
open Script Program Lexer MacroList

/-! ### Definitions -/

/-- A definition that succeeds stores the macro, and does nothing else. -/
theorem exists_of_define {name body : String} {c d : Console} {u : Unit}
    (h : define name body c = .ok u d) :
    name ∉ keywords ∧ Storage.NulFree body ∧
      ∃ s, c.host.storage.define name body = .ok s ∧ d = c.withStorage s := by
  by_cases hword : name ∈ keywords
  · have hcontains : keywords.contains name = true := by simpa using hword
    unfold define at h
    rw [hcontains] at h
    cases h
  by_cases hnul : Storage.NulFree body
  · rw [define_eq hword hnul] at h
    cases hdefine : c.host.storage.define name body with
    | error e =>
        rw [hdefine] at h
        cases h
    | ok s =>
        rw [hdefine] at h
        cases h
        exact ⟨hword, hnul, s, rfl, rfl⟩
  · have hcontains : keywords.contains name = false := by simpa using hword
    have hcut : body.contains '\x00' = true := by simpa [Storage.NulFree] using hnul
    unfold define at h
    rw [hcontains, hcut] at h
    cases h

/-- The definition of a macro by a text that can be read, with whatever blanks at its ends. -/
theorem tokenize_bare {name text : String} {ts : List Token} (hname : IsName name.toList)
    (htext : tokenize text = .ok ts) :
    ∃ body, tokenize (bare (name, text)) = .ok (definition name body) ∧
      tokenize body = tokenize text := by
  obtain ⟨body, hbraced, hbody⟩ := tokens_braced htext []
  refine ⟨body, ?_, hbody⟩
  have hline : (bare (name, text)).toList
      = "function ".toList ++ name.toList ++ " \x7b".toList ++ (text.toList ++ ['}']) := by
    simp [bare, header]
  rw [tokenize, hline, tokens_front hname, hbraced, tokens]
  rfl

/-- **What a definition leaves.**  If it succeeds, only the storage has changed, and what was stored
in it is read like the text. -/
theorem exists_of_execute_definition {name text : String} {ts : List Token}
    (hname : IsName name.toList) (htext : tokenize text = .ok ts) {c d : Console} {v : Arg}
    (h : execute (bare (name, text)) c = .ok v d) :
    name ∉ keywords ∧ ∃ body s, tokenize body = tokenize text ∧ Storage.NulFree body ∧
      c.host.storage.define name body = .ok s ∧ d = c.withStorage s := by
  obtain ⟨body, htokens, hbody⟩ := tokenize_bare hname htext
  rw [execute_of_isProgram htokens (.last (.define name body))] at h
  simp only [runProgram, runStatement, bind_assoc, pure_bind] at h
  obtain ⟨u, d', hdefine, hend⟩ := exists_of_bind_eq_ok h
  cases hend
  obtain ⟨hword, hnul, s, hs, rfl⟩ := exists_of_define hdefine
  exact ⟨hword, body, s, hbody, hnul, hs, rfl⟩

/-! ### Calls -/

/-- Lines with the same tokens do the same. -/
theorem execute_congr {line line' : String} (h : tokenize line = tokenize line') :
    execute line = execute line' := by
  unfold execute runLine
  rw [h]

/-- **A call of a stored macro runs its body**, one call deeper. -/
theorem execute_stored {name body : String} (hname : IsName name.toList) (hword : name ∉ keywords)
    {c : Console} (hfunction : c.functions.lookup? name = none)
    (hbody : c.host.storage.body? name = some body) (hroom : c.depth < maxDepth) :
    execute name c = nested (execute body) c := by
  have hlevels : maxDepth - c.depth = maxDepth - (c.depth + 1) + 1 := by omega
  rw [execute_eq (tokenize_name hname), runTokens_name _ hword, hlevels, call,
    invoke_stored hfunction hbody]
  rfl

/-- A result, but for the calls that are open. -/
def withDepth (depth : Nat) :
    EStateM.Result CommandError Console Arg → EStateM.Result CommandError Console Arg
  | .ok v c    => .ok v { c with depth }
  | .error e c => .error e { c with depth }

theorem endState_withDepth (depth : Nat) (result : EStateM.Result CommandError Console Arg) :
    (endState (withDepth depth result)).depth = depth := by
  cases result <;> rfl

theorem nested_execute (line : String) (c : Console) :
    nested (execute line) c = withDepth c.depth (execute line { c with depth := c.depth + 1 }) := by
  have hend : (endState (execute line { c with depth := c.depth + 1 })).depth = c.depth + 1 :=
    execute_atDepth line _ _ rfl
  unfold nested
  cases hrun : execute line { c with depth := c.depth + 1 } with
  | ok v d =>
      rw [hrun] at hend
      simp only [withDepth, show d.depth = c.depth + 1 from hend, Nat.add_sub_cancel]
  | error e d =>
      rw [hrun] at hend
      simp only [withDepth, show d.depth = c.depth + 1 from hend, Nat.add_sub_cancel]

/-- **Calling a macro is typing its text.**  Let a definition of a macro by a text that can be read
succeed, over a storage that only macro commands have changed, and let no function have the name.
Then in the console that it leaves, with any number of calls open that leaves room for one more, the
name has the effects of the text, and its value or its error, and as many calls are open afterwards
as before.  The name is none of the keywords and the text holds no NUL, or else the definition would
have failed. -/
theorem call_runs_text {name text : String} {ts : List Token} {c d : Console} {v : Arg}
    (hstorage : c.host.storage.MacrosOnly) (hname : IsName name.toList)
    (hfunction : c.functions.lookup? name = none) (htext : tokenize text = .ok ts)
    (hdefine : execute (bare (name, text)) c = .ok v d)
    {depth : Nat} (hroom : depth < maxDepth) :
    execute name { d with depth } = withDepth depth (execute text { d with depth := depth + 1 }) ∧
      (endState (execute name { d with depth })).depth = depth := by
  obtain ⟨m, hm⟩ := hstorage.holds
  obtain ⟨hword, body, s, hbody, hnul, hs, rfl⟩ :=
    exists_of_execute_definition hname htext hdefine
  have hfound : s.body? name = some body :=
    hm.body?_define ⟨nulFree_of_isName hname, hnul⟩ hs
  have hcall : execute name { c.withStorage s with depth }
      = withDepth depth (execute text { c.withStorage s with depth := depth + 1 }) := by
    rw [@execute_stored name body hname hword { c.withStorage s with depth } hfunction hfound hroom,
      nested_execute, execute_congr hbody]
  exact ⟨hcall, hcall ▸ endState_withDepth _ _⟩

/-- A console with room for a macro. -/
def roomy : Console := .new { small.host with storage := .fresh 24 } small.functions 2 .zero

/-- A text with a brace in a literal, and a blank at each end, at the last depth that has room. -/
theorem call_runs_text_brace :
    roomy.host.storage.MacrosOnly ∧
      tokenize " print \"\x7d\"; 1 " = .ok [.ident "print", .str "\x7d", .semi, .num 1] ∧
      ∃ d, execute (bare ("a", " print \"\x7d\"; 1 ")) roomy
          = .ok (.num 0) d ∧
        execute "a" { d with depth := 15 }
          = withDepth 15 (execute " print \"\x7d\"; 1 " { d with depth := 16 }) := by
  have hstorage : roomy.host.storage.MacrosOnly := ⟨24, [], by simp, rfl⟩
  have hname : IsName "a".toList := ⟨'a', [], rfl, by decide, by simp⟩
  have htext : tokenize " print \"\x7d\"; 1 "
      = .ok [.ident "print", .str "\x7d", .semi, .num 1] := by cbv
  have htokens : tokenize (bare ("a", " print \"\x7d\"; 1 "))
      = .ok (definition "a" "print \"\x7d\"; 1") := by cbv
  have hdefine : execute (bare ("a", " print \"\x7d\"; 1 ")) roomy
      = .ok (.num 0) (roomy.withStorage
        ⟨Storage.encodeEntry "a" "print \"\x7d\"; 1" ++ List.replicate 9 Storage.erased⟩) := by
    rw [execute_of_isProgram htokens (.last (.define _ _))]
    cbv
  have hcall := @call_runs_text _ _ _ _ _ _ hstorage hname (by cbv) htext hdefine 15 (by decide)
  exact ⟨hstorage, htext, _, hdefine, hcall.1⟩

end Console

end BoardConsole
