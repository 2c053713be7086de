import BoardConsole.Script.Lexer
import Mathlib

/-!
# Script — Bodies

A text `Closes` where the brace behind it closes the body that it is. The scan for a body finds just
the texts that do, and ends behind the first of them.

* `scanBody_eq_some_iff`: what the scan finds is a text that closes, followed by its brace.
* `closes_trim`: blanks at the ends of a text do not change whether it closes.
* `scanBody_cut`: where a text that closes is cut short, and something without a closing brace
  stands in place of the rest, nothing closes.
-/

namespace BoardConsole.Lexer
open Text

/-- At the end of the text no brace is open and no text literal, where `depth` braces and, with
`inText`, a literal are open before it. -/
def Closes (depth : Nat) (inText : Bool) : List Char → Prop
  | []      => depth = 0 ∧ inText = false
  | c :: cs =>
    if c = '"' then Closes depth (!inText) cs
    else if inText then
      if c = '\\' then
        match cs with
        | []       => False
        | _ :: cs' => Closes depth true cs'
      else Closes depth true cs
    else if c = '{' then Closes (depth + 1) false cs
    else if c = '}' then
      match depth with
      | 0         => False
      | depth + 1 => Closes depth false cs
    else Closes depth false cs

theorem closes_of_scanBody {depth : Nat} {inText : Bool} {cs text rest : List Char}
    (h : scanBody depth inText cs = some (text, rest)) :
    cs = text ++ '}' :: rest ∧ Closes depth inText text := by
  fun_induction scanBody depth inText cs generalizing text rest
  case case1 => simp at h
  case case3 => simp at h
  case case7 =>
      simp only [Option.some.injEq, Prod.mk.injEq] at h
      obtain ⟨rfl, rfl⟩ := h
      simp_all [Closes]
  all_goals
    rename_i ih
    obtain ⟨⟨t, r⟩, ht, hr⟩ := Option.map_eq_some_iff.1 h
    simp only [Prod.mk.injEq] at hr
    obtain ⟨rfl, rfl⟩ := hr
    obtain ⟨hcs, hcloses⟩ := ih ht
    refine ⟨by rw [hcs]; rfl, ?_⟩
    unfold Closes
    simp_all

theorem scanBody_of_closes {depth : Nat} {inText : Bool} {text : List Char}
    (h : Closes depth inText text) (rest : List Char) :
    scanBody depth inText (text ++ '}' :: rest) = some (text, rest) := by
  fun_induction Closes depth inText text
  case case1 =>
      obtain ⟨rfl, rfl⟩ := h
      unfold scanBody
      simp
  all_goals
    unfold scanBody
    simp_all

theorem scanBody_eq_some_iff {depth : Nat} {inText : Bool} {cs text rest : List Char} :
    scanBody depth inText cs = some (text, rest) ↔
      cs = text ++ '}' :: rest ∧ Closes depth inText text :=
  ⟨closes_of_scanBody, fun ⟨hcs, h⟩ => hcs ▸ scanBody_of_closes h rest⟩

/-- A text that closes does not go on behind its brace. -/
theorem Closes.not_append {depth : Nat} {inText : Bool} {text : List Char}
    (h : Closes depth inText text) (more : List Char) :
    ¬ Closes depth inText (text ++ '}' :: more) := by
  fun_induction Closes depth inText text
  case case1 =>
      obtain ⟨rfl, rfl⟩ := h
      unfold Closes
      simp
  all_goals
    unfold Closes
    simp_all

/-- **A text that is cut short does not close.** -/
theorem scanBody_cut {depth : Nat} {inText : Bool} {text more other : List Char}
    (h : Closes depth inText (text ++ more)) (hother : '}' ∉ other) :
    scanBody depth inText (text ++ other) = none := by
  rw [Option.eq_none_iff_forall_ne_some]
  rintro ⟨found, rest⟩ hscan
  obtain ⟨heq, hcloses⟩ := scanBody_eq_some_iff.mp hscan
  rcases List.append_eq_append_iff.mp heq with ⟨as, hfound, hbrace⟩ | ⟨bs, htext, hbrace⟩
  · exact hother (hbrace ▸ by simp)
  · rcases bs with _ | ⟨b, bs⟩
    · exact hother (by rw [List.nil_append] at hbrace; simp [← hbrace])
    · rw [List.cons_append, List.cons.injEq] at hbrace
      obtain ⟨rfl, -⟩ := hbrace
      rw [htext, List.append_assoc] at h
      exact hcloses.not_append _ h

/-! ### Blanks -/

theorem ne_of_isBlank {c : Char} (h : isBlank c = true) :
    c ≠ '"' ∧ c ≠ '\\' ∧ c ≠ '{' ∧ c ≠ '}' := by
  refine ⟨?_, ?_, ?_, ?_⟩ <;> rintro rfl <;> exact absurd h (by decide)

/-- Outside a literal, characters that are no quote and no brace make no difference. -/
theorem closes_plain_append {depth : Nat} {run : List Char}
    (hrun : ∀ c ∈ run, c ≠ '"' ∧ c ≠ '{' ∧ c ≠ '}') (text : List Char) :
    Closes depth false (run ++ text) ↔ Closes depth false text := by
  induction run with
  | nil => rfl
  | cons c cs ih =>
      rw [List.forall_mem_cons] at hrun
      obtain ⟨hquote, hopen, hclose⟩ := hrun.1
      rw [← ih hrun.2, List.cons_append, Closes.eq_def]
      simp [hquote, hopen, hclose]

theorem closes_blanks_append {depth : Nat} {blanks : List Char} (hblanks : ∀ c ∈ blanks, isBlank c)
    (text : List Char) : Closes depth false (blanks ++ text) ↔ Closes depth false text := by
  refine closes_plain_append (fun c hc => ?_) text
  obtain ⟨hquote, -, hopen, hclose⟩ := ne_of_isBlank (hblanks c hc)
  exact ⟨hquote, hopen, hclose⟩

theorem eq_of_closes_blanks {depth : Nat} {inText : Bool} {blanks : List Char}
    (hblanks : ∀ c ∈ blanks, isBlank c) (h : Closes depth inText blanks) :
    depth = 0 ∧ inText = false := by
  induction blanks with
  | nil => exact h
  | cons c cs ih =>
      rw [List.forall_mem_cons] at hblanks
      obtain ⟨hquote, hescape, hopen, hclose⟩ := ne_of_isBlank hblanks.1
      cases inText with
      | true =>
          refine ih hblanks.2 ?_
          rw [Closes.eq_def] at h
          simpa [hquote, hescape] using h
      | false =>
          refine ih hblanks.2 ?_
          rw [Closes.eq_def] at h
          simpa [hquote, hopen, hclose] using h

theorem closes_of_append_blanks {depth : Nat} {inText : Bool} {text blanks : List Char}
    (hblanks : ∀ c ∈ blanks, isBlank c) (h : Closes depth inText (text ++ blanks)) :
    Closes depth inText text := by
  fun_induction Closes depth inText text
  case case1 => exact eq_of_closes_blanks hblanks h
  case case3 =>
      -- a backslash at the end takes the first blank with it
      rcases blanks with _ | ⟨c, blanks⟩
      · simp_all [Closes]
      · rw [List.forall_mem_cons] at hblanks
        rw [List.singleton_append, Closes.eq_def] at h
        simp only [↓reduceIte] at h
        exact absurd (eq_of_closes_blanks hblanks.2 (by simpa using h)).2 (by decide)
  all_goals
    rw [List.cons_append, Closes.eq_def] at h
    simp_all

theorem exists_trim (cs : List Char) :
    ∃ front back, cs = front ++ trim cs ++ back ∧ (∀ c ∈ front, isBlank c) ∧
      ∀ c ∈ back, isBlank c := by
  refine ⟨cs.takeWhile isBlank, (cs.dropWhile isBlank).rtakeWhile isBlank, ?_,
    fun c hc => List.mem_takeWhile_imp hc, fun c hc => List.mem_rtakeWhile_imp hc⟩
  rw [List.append_assoc]
  show cs = _ ++ ((cs.dropWhile isBlank).rdropWhile isBlank ++ _)
  rw [List.rdropWhile_append_rtakeWhile, List.takeWhile_append_dropWhile]

theorem trim_trim (cs : List Char) : trim (trim cs) = trim cs := by
  have hfront : (trim cs).dropWhile isBlank = trim cs := by
    obtain ⟨more, hmore⟩ : trim cs <+: cs.dropWhile isBlank := List.rdropWhile_prefix isBlank _
    rw [List.dropWhile_eq_self_iff]
    intro hpos
    have hlen : 0 < (cs.dropWhile isBlank).length := by
      rw [← hmore, List.length_append]
      omega
    have hhead := List.dropWhile_get_zero_not isBlank cs hlen
    simpa [← hmore, List.getElem_append_left hpos] using hhead
  show ((trim cs).dropWhile isBlank).rdropWhile isBlank = trim cs
  rw [hfront]
  exact List.rdropWhile_idempotent isBlank _

/-- **Trimming a text does not change where its body ends.** -/
theorem closes_trim {text : List Char} (h : Closes 0 false text) : Closes 0 false (trim text) := by
  obtain ⟨front, back, heq, hfront, hback⟩ := exists_trim text
  rw [heq, List.append_assoc] at h
  exact closes_of_append_blanks hback ((closes_blanks_append hfront _).mp h)

end BoardConsole.Lexer
