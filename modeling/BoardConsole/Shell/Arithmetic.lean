import BoardConsole.Shell.Process

/-!
# Shell — Arithmetic

Expressions over 64-bit integers. They are worked out while they are read, from left to right, so
that of two faults the first one counts; what a logical operator leaves out is read but has no
effect.
-/

namespace BoardConsole.Shell.Arithmetic

/-- A token of an expression. -/
inductive Lexeme where
  | number (n : Int64)
  | name (s : String)
  | op (mark : String)
deriving DecidableEq, Repr

/-- The operators, longest first. -/
def operators : List String :=
  ["<<=", ">>=", "==", "!=", "<=", ">=", "&&", "||", "<<", ">>", "*=", "/=", "%=", "+=", "-=",
   "&=", "^=", "|=", "=", "<", ">", "&", "|", "^", "+", "-", "*", "/", "%", "!", "~", "(", ")",
   "?", ":"]

/-- A blank. -/
def isBlank (c : Char) : Bool := c == ' ' || ('\t' ≤ c && c ≤ '\r')

/-- A digit's value in bases up to thirty-six. -/
def digit? (base : Nat) (c : Char) : Option Nat :=
  let value :=
    if c.isDigit then c.toNat - 48
    else if c.isLower then c.toNat - 87
    else if c.isUpper then c.toNat - 55
    else base
  if value < base then some value else none

/-- Takes digits. -/
def takeDigits (base : Nat) (cs : List Char) : List Char :=
  cs.takeWhile fun c => (digit? base c).isSome

/-- The value of digits. -/
def valueOf (base : Nat) (digits : List Char) : Nat :=
  digits.foldl (fun n c => n * base + (digit? base c).getD 0) 0

/-- The base that a number is written in, and how many characters say so. -/
def baseOf (cs : List Char) : Nat × Nat :=
  match cs with
  | '0' :: x :: d :: _ =>
    if (x = 'x' || x = 'X') && (digit? 16 d).isSome then (16, 2) else (8, 0)
  | '0' :: _ => (8, 0)
  | _        => (10, 0)

/-- The number that a text begins with, and what follows it; the base is read off it where it is
zero. -/
def readNatural? (base : Nat) (cs : List Char) : Option (Nat × List Char) :=
  let (base, skipped) := if base = 0 then baseOf cs else (base, 0)
  match takeDigits base (cs.drop skipped) with
  | []     => none
  | digits => some (valueOf base digits, cs.drop (skipped + digits.length))

/-- The greatest number. -/
def greatest : Nat := 9223372036854775807

/-- The number that a whole text is, with a sign and with blanks around it. -/
def integer? (base : Nat) (s : String) : Option Int :=
  let cs := s.toList.dropWhile isBlank
  let (negative, cs) :=
    match cs with
    | '-' :: r => (true, r)
    | '+' :: r => (false, r)
    | r        => (false, r)
  match readNatural? base cs with
  | none => none
  | some (n, rest) =>
    if !rest.all isBlank || (if negative then greatest + 1 else greatest) < n then none
    else some (if negative then -(n : Int) else n)

/-- The tokens of an expression; a character that belongs to none is one of its own. -/
def lexemes : (fuel : Nat) → List Char → List Lexeme
  | 0, _ => []
  | _, [] => []
  | fuel + 1, c :: cs =>
    if isBlank c then lexemes fuel cs
    else if c.isDigit then
      match readNatural? 0 (c :: cs) with
      | some (n, rest) => .number (Int64.ofNat (min n greatest)) :: lexemes fuel rest
      | none           => .op "" :: lexemes fuel cs
    else if isNameStart c then
      let name := (c :: cs).takeWhile isNameChar
      .name (String.ofList name) :: lexemes fuel ((c :: cs).drop name.length)
    else
      match operators.find? fun o => o.toList.isPrefixOf (c :: cs) with
      | some o => .op o :: lexemes fuel ((c :: cs).drop o.length)
      | none   => .op "" :: lexemes fuel cs

/-- How weakly a binary operator binds. -/
def weakness? (mark : String) : Option Nat :=
  [("*", 0), ("/", 0), ("%", 0), ("+", 1), ("-", 1), ("<<", 2), (">>", 2), ("<", 3), ("<=", 3),
   (">", 3), (">=", 3), ("==", 4), ("!=", 4), ("&", 5), ("^", 6), ("|", 7)].lookup mark

/-- The loosest binary operator binds tighter than this. -/
def weakest : Nat := 8

/-- The operator by which an assignment changes a variable. -/
def changing? (mark : String) : Option (Option String) :=
  if mark = "=" then some none
  else
    let operator := String.ofList mark.toList.dropLast
    if mark.endsWith "=" && (weakness? operator).isSome && !(["<=", ">=", "==", "!="].contains mark)
    then some (some operator)
    else none

/-- A truth value as a number. -/
def truth (b : Bool) : Int64 := if b then 1 else 0

/-- Reads an expression and works it out. -/
abbrev Calc := StateT (List Lexeme) Act

/-- Gives up; the message shows the expression. -/
def refuse {α : Type} (expression what : String) : Calc α :=
  StateT.lift (Act.fail ("arithmetic expression: " ++ what ++ ": \"" ++ expression ++ "\""))

/-- Takes a mark if it comes next. -/
def takes (mark : String) : Calc Bool := do
  match ← get with
  | .op m :: rest =>
    if m = mark then
      set rest
      return true
    else return false
  | _ => return false

/-- The value of a variable. -/
def lookup (name : String) : Act Int64 := do
  let text ← Act.valueOf name
  if text.all isBlank then return 0
  match integer? 0 text with
  | some n => return Int64.ofInt n
  | none   => Act.fail ("Illegal number: " ++ text)

/-- The value of a binary operator. -/
def apply (expression mark : String) (a b : Int64) : Calc Int64 := do
  match mark with
  | "*"  => return a * b
  | "/"  => if b = 0 then refuse expression "division by zero" else return a / b
  | "%"  => if b = 0 then refuse expression "division by zero" else return a % b
  | "+"  => return a + b
  | "-"  => return a - b
  | "<<" => return a <<< (b &&& 63)
  | ">>" => return a >>> (b &&& 63)
  | "<"  => return truth (a < b)
  | "<=" => return truth (a ≤ b)
  | ">"  => return truth (b < a)
  | ">=" => return truth (b ≤ a)
  | "==" => return truth (a = b)
  | "!=" => return truth (a ≠ b)
  | "&"  => return a &&& b
  | "^"  => return a ^^^ b
  | _    => return a ||| b

/-- What stands between operators; the whole is read by `whole`. -/
def primary (expression : String) (whole : (live : Bool) → Calc Int64) (live : Bool) :
    (fuel : Nat) → Calc Int64
  | 0 => refuse expression "expecting primary"
  | fuel + 1 => do
    match ← get with
    | .number n :: rest => set rest; return n
    | .name s :: rest =>
      set rest
      if live then lookup s else return 0
    | .op "(" :: rest =>
      set rest
      let n ← whole live
      if ← takes ")" then return n else refuse expression "expecting ')'"
    | .op "+" :: rest => set rest; primary expression whole live fuel
    | .op "-" :: rest => set rest; return -(← primary expression whole live fuel)
    | .op "!" :: rest => set rest; return truth ((← primary expression whole live fuel) = 0)
    | .op "~" :: rest => set rest; return ~~~(← primary expression whole live fuel)
    | _ => refuse expression "expecting primary"

/-- Goes on behind an operand with all operators that bind tighter than some weakness. -/
def binary (expression : String) (operand : Calc Int64) (live : Bool) (limit : Nat) :
    (fuel : Nat) → Int64 → Calc Int64
  | 0, a => return a
  | fuel + 1, a => do
    match ← get with
    | .op mark :: rest =>
      match weakness? mark with
      | none => return a
      | some weakness =>
        if limit ≤ weakness then return a
        set rest
        let first ← operand
        let b ← binary expression operand live weakness fuel first
        let value ← if live then apply expression mark a b else pure b
        binary expression operand live limit fuel value
    | _ => return a

/-- Operands joined by `&&`. -/
def conjunction (operand : (live : Bool) → Calc Int64) (live : Bool) : (fuel : Nat) → Calc Int64
  | 0 => return 0
  | fuel + 1 => do
    let a ← operand live
    if ← takes "&&" then
      let b ← conjunction operand (live && a ≠ 0) fuel
      return truth (a ≠ 0 && b ≠ 0)
    else return a

/-- Operands joined by `||`. -/
def disjunction (operand : (live : Bool) → Calc Int64) (live : Bool) : (fuel : Nat) → Calc Int64
  | 0 => return 0
  | fuel + 1 => do
    let a ← operand live
    if ← takes "||" then
      let b ← disjunction operand (live && a = 0) fuel
      return truth (a ≠ 0 || b ≠ 0)
    else return a

/-- An expression, which may choose between two others and, where that is allowed, assign a
variable. -/
def whole (expression : String) : (fuel : Nat) → (assigns live : Bool) → Calc Int64
  | 0, _, _ => refuse expression "expecting primary"
  | fuel + 1, assigns, live => do
    let inside := whole expression fuel true
    let operand (live : Bool) : Calc Int64 := do
      let a ← primary expression inside live fuel
      binary expression (primary expression inside live fuel) live weakest fuel a
    let choice : Calc Int64 := do
      let a ← disjunction (fun live => conjunction operand live fuel) live fuel
      if ← takes "?" then
        let b ← inside (live && a ≠ 0)
        unless ← takes ":" do refuse expression "expecting ':'"
        let c ← whole expression fuel false (live && a = 0)
        return if a ≠ 0 then b else c
      else return a
    match ← get with
    | .name s :: .op mark :: rest =>
      match if assigns then changing? mark else none with
      | none        => choice
      | some change =>
        set rest
        let b ← inside live
        if !live then return b
        let value ←
          match change with
          | none   => pure b
          | some o => do apply expression o (← lookup s) b
        Act.assign s (toString value.toInt)
        return value
    | _ => choice

/-- The value of an expression. -/
def evaluate (expression : String) : Act Int := do
  let text := expression.toList
  let tokens := lexemes (text.length + 1) text
  let reading : Calc Int64 := do
    let n ← whole expression (tokens.length + 2) true true
    if !(← get).isEmpty then refuse expression "expecting EOF"
    return n
  let (n, _) ← reading tokens
  return n.toInt

end BoardConsole.Shell.Arithmetic
