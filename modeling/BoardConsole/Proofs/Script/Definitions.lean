import BoardConsole.Proofs.Script.Grammar
import BoardConsole.Proofs.Script.Lexing

/-!
# Script — Where definitions come from

`definition_of_mem`: a program that is read from tokens defines a macro only where the tokens of its
definition stand.
-/

namespace BoardConsole.Script
open Program Lexer

theorem readDefine_eq_define {ts : List Token} {name body : String}
    (h : (readDefine ts).1 = .define name body) : [.ident name, .body body] <+: ts := by
  unfold readDefine at h
  split at h
  · cases h
  · rename_i found text us hsuffix hread
    rcases ts with _ | ⟨tok, ts⟩
    · cases hread
    · cases tok <;> cases hread
      cases h
      exact ⟨us, rfl⟩
  · cases h

theorem readKeyword_eq_define {word : String} {ts : List Token} {name body : String}
    (h : (readKeyword word ts).1 = .define name body) :
    word = "function" ∧ [.ident name, .body body] <+: ts := by
  unfold readKeyword at h
  split at h
  · rename_i hword
    exact ⟨hword, readDefine_eq_define h⟩
  split at h
  · unfold readRemove at h
    split at h
    · cases h
    · split at h <;> cases h
  split at h
  · cases h
  split at h
  · cases h
  split at h
  · cases h
  split at h
  · unfold readStart at h
    split at h <;> cases h
  split at h
  · unfold readStop at h
    split at h <;> cases h
  · unfold readPrint at h
    split at h <;> cases h

theorem readStatement_eq_define {ts : List Token} {name body : String}
    (h : (readStatement ts).1 = .define name body) : definition name body <+: ts := by
  rcases ts with _ | ⟨tok, us⟩
  · cases h
  · cases tok with
    | ident word =>
        rw [readStatement] at h
        split at h
        · obtain ⟨rfl, more, rfl⟩ := readKeyword_eq_define h
          exact ⟨more, rfl⟩
        · cases h
    | _ => cases h

/-- **Where a macro is defined, the tokens of its definition stand.** -/
theorem definition_of_mem {ts : List Token} {name body : String}
    (h : .define name body ∈ ofTokens ts) : definition name body <:+: ts := by
  induction ts using ofTokens.induct with
  | case1 =>
      rw [ofTokens] at h
      simp at h
  | case2 us ih =>
      rw [ofTokens] at h
      exact (ih h).trans (List.suffix_cons _ _).isInfix
  | case3 tok us hsemi s hsuffix hread =>
      rw [ofTokens_last (List.cons_ne_nil _ _) (by simpa using hsemi) ⟨rfl, by rw [hread]⟩,
        List.mem_singleton] at h
      exact (readStatement_eq_define h.symm).isInfix
  | case4 tok us hsemi s vs hsuffix hread ih =>
      rw [ofTokens_more (by simpa using hsemi) ⟨rfl, by rw [hread]⟩, List.mem_cons] at h
      rcases h with h | h
      · exact (readStatement_eq_define h.symm).isInfix
      · exact (ih h).trans (suffix_of_cons_suffix hsuffix).isInfix
  | case5 tok us hsemi s other vs hsuffix hother hread =>
      rw [ofTokens_other (by simpa using hsemi) hother ⟨rfl, by rw [hread]⟩] at h
      simp only [List.mem_cons, reduceCtorEq, List.not_mem_nil, or_false] at h
      exact (readStatement_eq_define h.symm).isInfix

end BoardConsole.Script
