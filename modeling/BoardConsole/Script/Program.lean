import BoardConsole.Script.Cursor

/-!
# Script — Programs

A line as statements over expressions, read from its tokens from left to right. Reading never
fails: where the tokens stop following the grammar, the fault stands in the program at that place,
so that running the program does all that comes before it and then stops with the fault. What
follows a fault is not read.

* an expression is `!e`, `-e`, a number, a text, or a name with an optional argument list in
  parentheses, its expressions separated by commas;
* a statement begins with one of the `keywords`, or is an expression;
* statements are separated by one semicolon or more.
-/

namespace BoardConsole

/-- An expression. -/
inductive Expr where
  | num (n : Int32)
  | str (text : String)
  /-- One for zero, zero for anything else. -/
  | not (e : Expr)
  | negate (e : Expr)
  /-- A function, or a stored macro, and its arguments. -/
  | call (name : String) (args : List Expr)
  /-- The tokens stop following the grammar here. -/
  | fault (fault : SyntaxFault)

/-- A statement. -/
inductive Statement where
  /-- Store a macro. -/
  | define (name body : String)
  /-- Remove a macro. -/
  | remove (name : String)
  /-- Erase the whole storage. -/
  | removeAll
  /-- Print every macro as a definition. -/
  | list
  /-- Print how much of the storage is used. -/
  | usage
  /-- Print the tasks. -/
  | tasks
  /-- Run a macro as a task. -/
  | start (name : String) (interval : Option Expr)
  /-- Stop one task, or all. -/
  | stop (id : Option Expr)
  | print (parts : List Expr)
  | value (e : Expr)
  /-- The tokens stop following the grammar here. -/
  | fault (fault : SyntaxFault)

/-- The statements of a line, in order. -/
abbrev Program := List Statement

namespace Program
open Script

mutual

/-- The expression that the tokens begin with. -/
def readExpr (ts : List Token) : Expr × Rest ts :=
  match ts with
  | [] => (.fault .expressionExpected, .none)
  | .bang :: us =>
    let (e, rest) := readExpr us
    (.not e, rest.weaken (List.suffix_cons _ us))
  | .minus :: us =>
    let (e, rest) := readExpr us
    (.negate e, rest.weaken (List.suffix_cons _ us))
  | .num n :: us => (.num n, ⟨us, List.suffix_cons _ us⟩)
  | .str text :: us => (.str text, ⟨us, List.suffix_cons _ us⟩)
  | .ident name :: .lparen :: .rparen :: us =>
    (.call name [], .after (suffix_cons_cons _ _ (.rparen :: us)))
  | .ident name :: .lparen :: us =>
    let (args, rest) := readArgs us
    (.call name args, rest.weaken (suffix_cons_cons _ _ us))
  | .ident name :: us => (.call name [], ⟨us, List.suffix_cons _ us⟩)
  | tok :: _ => (.fault (.unexpected tok), .none)
termination_by (ts.length, 0)

/-- The arguments up to the closing parenthesis. -/
def readArgs (ts : List Token) : List Expr × Rest ts :=
  let (e, rest) := readExpr ts
  match rest with
  | ⟨.comma :: us, h⟩ =>
    let (es, rest) := readArgs us
    (e :: es, rest.weaken (suffix_of_cons_suffix h))
  | ⟨.rparen :: _, h⟩ => ([e], .after h)
  | _ => ([e, .fault .closeExpected], .none)
termination_by (ts.length, 1)
decreasing_by
  · exact Prod.Lex.right _ (by omega)
  · exact Prod.Lex.left _ _ (length_lt_of_suffix h)

end

/-- The expressions of a comma-separated list, at least one. -/
def readParts (ts : List Token) : List Expr × Rest ts :=
  let (e, rest) := readExpr ts
  match rest with
  | ⟨.comma :: us, h⟩ =>
    let (es, rest) := readParts us
    (e :: es, rest.weaken (suffix_of_cons_suffix h))
  | rest => ([e], rest)
termination_by ts.length
decreasing_by exact length_lt_of_suffix h

/-- What follows the keyword `function`. -/
def readDefine (ts : List Token) : Statement × Rest ts :=
  match readName ts with
  | .error fault                     => (.fault fault, .none)
  | .ok (name, ⟨.body text :: _, h⟩) => (.define name text, .after h)
  | .ok _                            => (.fault .bodyExpected, .none)

/-- What follows the keyword `rm`. -/
def readRemove (ts : List Token) : Statement × Rest ts :=
  match ts with
  | .star :: us => (.removeAll, ⟨us, List.suffix_cons _ us⟩)
  | ts =>
    match readName ts with
    | .error fault     => (.fault fault, .none)
    | .ok (name, rest) => (.remove name, rest)

/-- What follows the keyword `run`. -/
def readStart (ts : List Token) : Statement × Rest ts :=
  match readName ts with
  | .error fault => (.fault fault, .none)
  | .ok (name, ⟨.comma :: us, h⟩) =>
    let (e, rest) := readExpr us
    (.start name (some e), rest.weaken (suffix_of_cons_suffix h))
  | .ok (name, rest) => (.start name none, rest)

/-- What follows the keyword `stop`. -/
def readStop (ts : List Token) : Statement × Rest ts :=
  if atEnd ts then (.stop none, .all ts)
  else
    let (e, rest) := readExpr ts
    (.stop (some e), rest)

/-- What follows the keyword `print`. -/
def readPrint (ts : List Token) : Statement × Rest ts :=
  if atEnd ts then (.print [], .all ts)
  else
    let (es, rest) := readParts ts
    (.print es, rest)

/-- What follows a keyword. -/
def readKeyword (keyword : String) (ts : List Token) : Statement × Rest ts :=
  if keyword = "function" then readDefine ts
  else if keyword = "rm" then readRemove ts
  else if keyword = "ls" then (.list, .all ts)
  else if keyword = "peep" then (.usage, .all ts)
  else if keyword = "ps" then (.tasks, .all ts)
  else if keyword = "run" then readStart ts
  else if keyword = "stop" then readStop ts
  else readPrint ts

/-- The statement that the tokens begin with. -/
def readStatement (ts : List Token) : Statement × Rest ts :=
  match ts with
  | .ident word :: us =>
    if keywords.contains word then
      let (s, rest) := readKeyword word us
      (s, rest.weaken (List.suffix_cons _ us))
    else
      let (e, rest) := readExpr (.ident word :: us)
      (.value e, rest)
  | ts =>
    let (e, rest) := readExpr ts
    (.value e, rest)

/-- The program that the tokens stand for. -/
def ofTokens (ts : List Token) : Program :=
  match ts with
  | []          => []
  | .semi :: us => ofTokens us
  | tok :: us =>
    let (s, rest) := readStatement (tok :: us)
    match rest with
    | ⟨[], _⟩           => [s]
    | ⟨.semi :: us, _h⟩ => s :: ofTokens us
    | ⟨other :: _, _⟩   => [s, .fault (.unexpected other)]
termination_by ts.length
decreasing_by
  · simp
  · exact length_lt_of_suffix _h

end Program

end BoardConsole
