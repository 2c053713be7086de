import BoardConsole.Error

/-!
# Script — Places in a line

What running a line and reading one both need of its tokens: the names that begin a statement of
their own, what is left after a piece of the line, and where a statement ends.
-/

namespace BoardConsole.Script

/-- The names that begin a statement of their own and cannot name a macro. -/
def keywords : List String := ["function", "rm", "ls", "peep", "ps", "run", "stop", "print"]

/-- What is left of `ts`. -/
abbrev Rest (ts : List Token) := { rest : List Token // rest <:+ ts }

theorem suffix_of_cons_suffix {ts us : List Token} {tok : Token} (h : tok :: us <:+ ts) :
    us <:+ ts :=
  (List.suffix_cons tok us).trans h

namespace Rest

/-- Nothing is left. -/
def none {ts : List Token} : Rest ts := ⟨[], List.nil_suffix⟩

/-- All is left. -/
def all (ts : List Token) : Rest ts := ⟨ts, List.suffix_refl ts⟩

/-- What is left once a token is taken off. -/
def after {ts us : List Token} {tok : Token} (h : tok :: us <:+ ts) : Rest ts :=
  ⟨us, suffix_of_cons_suffix h⟩

/-- What is left of a list is left of a longer one. -/
def weaken {ts us : List Token} (rest : Rest ts) (h : ts <:+ us) : Rest us :=
  ⟨rest.val, rest.property.trans h⟩

end Rest

theorem length_lt_of_suffix {ts us : List Token} {tok : Token} (h : tok :: us <:+ ts) :
    us.length < ts.length :=
  h.length_le

theorem suffix_cons_cons (tok₁ tok₂ : Token) (us : List Token) : us <:+ tok₁ :: tok₂ :: us :=
  (List.suffix_cons tok₂ us).trans (List.suffix_cons tok₁ _)

/-- Whether a statement ends here. -/
def atEnd : List Token → Bool
  | []         => true
  | .semi :: _ => true
  | _          => false

/-- The name that the tokens begin with, or the fault that there is none. -/
def readName (ts : List Token) : Except SyntaxFault (String × Rest ts) :=
  match ts with
  | .ident name :: us => .ok (name, ⟨us, List.suffix_cons _ us⟩)
  | tok :: _          => .error (.nameExpected (some tok))
  | []                => .error (.nameExpected none)

end BoardConsole.Script
