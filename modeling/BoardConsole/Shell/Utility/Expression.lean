import BoardConsole.Shell.Regex
import BoardConsole.Shell.Utility.Usage

/-!
# Shell — Expressions as arguments

`expr` evaluates an expression whose parts are arguments of their own. A value is a text; one that
spells an integer also counts as that. The operators bind, from the weakest: `|`, `&`, comparisons,
sums, products, and matching.
-/

namespace BoardConsole.Shell.Utility

open Act

/-- The integer that a text spells. -/
def exprInteger? (s : String) : Option Int :=
  match s.toList with
  | '-' :: cs => if !cs.isEmpty && cs.all Char.isDigit then some (-(Arithmetic.valueOf 10 cs : Int)) else none
  | cs => if !cs.isEmpty && cs.all Char.isDigit then some (Arithmetic.valueOf 10 cs : Int) else none

/-- Whether a value counts as false: it is empty or a zero. -/
def isNull (s : String) : Bool :=
  match s.toList with
  | []        => true
  | '-' :: cs => !cs.isEmpty && cs.all (· = '0')
  | cs        => cs.all (· = '0')

/-- Reads an expression from arguments, and evaluates it. -/
abbrev Evaluator := StateT (List String) (Except String)

/-- What is said where an argument is missing or is one too many. -/
def syntaxFault (what : String) : String := "syntax error: " ++ what

/-- The number of a value. -/
def exprNumber (s : String) : Evaluator Int :=
  match exprInteger? s with
  | some n => return n
  | none   => throw "non-integer argument"

/-- The value of a truth. -/
def exprTruth (b : Bool) : String := if b then "1" else "0"

/-- What a regular expression matches at the beginning of a text: its first group, or the number of
characters. -/
def exprMatch (text pattern : String) : Evaluator String := do
  match Regex.ofText { lenient := true } pattern with
  | .error fault => throw fault.message
  | .ok r =>
    let found := Regex.matchAt false r (.first [] text.toList)
    let grouped := (pattern.splitOn "\\(").length > 1
    return match found with
      | none   => if grouped then "" else "0"
      | some p =>
        if grouped then String.ofList ((p.groups.lookup 1).getD []) else toString p.offset

/-- The value of an operator; both values are known. -/
def exprApply (operator a b : String) : Evaluator String := do
  let compareWith (p : Ordering → Bool) : String :=
    let order := match exprInteger? a, exprInteger? b with
      | some m, some n => compare m n
      | _, _           => if a = b then .eq else if a < b then .lt else .gt
    exprTruth (p order)
  let divide (f : Int → Int → Int) : Evaluator String := do
    let m ← exprNumber a
    let n ← exprNumber b
    if n = 0 then throw "division by zero"
    return toString (f m n)
  match operator with
  | "|"  => return if !isNull a then a else if !isNull b then b else "0"
  | "&"  => return if !isNull a && !isNull b then a else "0"
  | "<"  => return compareWith (· = .lt)
  | "<=" => return compareWith (· != .gt)
  | ">"  => return compareWith (· = .gt)
  | ">=" => return compareWith (· != .lt)
  | "!=" => return compareWith (· != .eq)
  | "="  | "==" => return compareWith (· = .eq)
  | "+"  => return toString ((← exprNumber a) + (← exprNumber b))
  | "-"  => return toString ((← exprNumber a) - (← exprNumber b))
  | "*"  => return toString ((← exprNumber a) * (← exprNumber b))
  | "/"  => divide Int.tdiv
  | "%"  => divide Int.tmod
  | _    => exprMatch a b

/-- The operators, the weakest first. -/
def exprOperators : List (List String) :=
  [["|"], ["&"], ["<", "<=", "=", "==", "!=", ">=", ">"], ["+", "-"], ["*", "/", "%"], [":"]]

/-- The next argument. -/
def exprNext (before : String) : Evaluator String := do
  match ← get with
  | [] => throw (syntaxFault (if before = "" then "missing argument"
      else "missing argument after " ++ cited before))
  | s :: rest =>
    set rest
    return s

/-- The place of the first character of a text that is one of some, from one. -/
def exprIndex (text chars : String) : Nat :=
  match text.toList.findIdx? chars.toList.contains with
  | some n => n + 1
  | none   => 0

/-- A part of a text, from a place on. -/
def exprPart (text first length : String) : String :=
  match exprInteger? first, exprInteger? length with
  | some m, some n =>
    if m ≤ 0 || n ≤ 0 then ""
    else String.ofList ((text.toList.drop (m.toNat - 1)).take n.toNat)
  | _, _ => ""

/-- Evaluates operators from some strength on, after an argument. -/
def exprLevel : (fuel : Nat) → (levels : List (List String)) → (live : Bool) → (before : String) →
    Evaluator String
  | 0, _, _, _ => throw "memory exhausted"
  | fuel + 1, [], live, before => do
    let s ← exprNext before
    match s with
    | "(" =>
      let value ← exprLevel fuel exprOperators live s
      match ← get with
      | ")" :: rest =>
        set rest
        return value
      | []     => throw (syntaxFault ("expecting ')' after " ++ cited value))
      | t :: _ => throw (syntaxFault ("expecting ')' instead of " ++ cited t))
    | ")" => throw (syntaxFault "unexpected ')'")
    | "+" => exprNext s
    | "length" => return toString (← exprLevel fuel [] live s).length
    | "match" =>
      let text ← exprLevel fuel [] live s
      exprMatch text (← exprLevel fuel [] live text)
    | "index" =>
      let text ← exprLevel fuel [] live s
      return toString (exprIndex text (← exprLevel fuel [] live text))
    | "substr" =>
      let text ← exprLevel fuel [] live s
      let first ← exprLevel fuel [] live text
      return exprPart text first (← exprLevel fuel [] live first)
    | s => return s
  | fuel + 1, operators :: tighter, live, before => do
    let a ← exprLevel fuel tighter live before
    further fuel operators tighter live a
where
  /-- Goes on with operators of one strength. -/
  further : (fuel : Nat) → List String → List (List String) → (live : Bool) → (a : String) →
      Evaluator String
    | 0, _, _, _, a => return a
    | fuel + 1, operators, tighter, live, a => do
      match ← get with
      | s :: rest =>
        if operators.contains s then
          set rest
          let needed := match s with
            | "|" => isNull a
            | "&" => !isNull a
            | _   => true
          let b ← exprLevel fuel tighter (live && needed) s
          if live then further fuel operators tighter live (← exprApply s a (if needed then b else "0"))
          else further fuel operators tighter live a
        else return a
      | [] => return a

/-- Evaluates an expression. -/
def expr : Builtin := fun _ args => do
  let args := if args.head? = some "--" then args.tail else args
  if args.isEmpty then
    complain "expr: missing operand"
    complain "Try 'expr --help' for more information."
    return 2
  match (exprLevel (16 * args.length + 16) exprOperators true "").run args with
  | .error message =>
    complain ("expr: " ++ message)
    return 2
  | .ok (_, s :: _) =>
    complain ("expr: " ++ syntaxFault ("unexpected argument " ++ cited s))
    return 2
  | .ok (value, []) =>
    match ← write 1 (value ++ "\n") with
    | none => return if isNull value then 1 else 0
    | some fault =>
      complain ("expr: write error: " ++ fault.reason)
      return 3

end BoardConsole.Shell.Utility
