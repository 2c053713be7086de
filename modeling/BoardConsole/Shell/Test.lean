import BoardConsole.Shell.Options

/-!
# Shell — Conditions

The conditions that `test` decides. Up to four arguments are read by their number; more of them by
descent, where `-o` binds weaker than `-a` and that weaker than `!`. What the arguments are taken
for depends on what follows them, so an operator can be an operand.
-/

namespace BoardConsole.Shell.Test

/-- How an operator takes its operands. -/
inductive Form where
  | unary
  | binary
  /-- Negates what follows. -/
  | not
  /-- Joins two conditions. -/
  | joining
  | paren
deriving DecidableEq, Repr

/-- The form of an operator. -/
def form? (s : String) : Option Form :=
  if ["-r", "-w", "-x", "-e", "-f", "-d", "-c", "-b", "-p", "-u", "-g", "-k", "-s", "-t", "-z", "-n",
      "-h", "-O", "-G", "-L", "-S"].contains s then some .unary
  else if ["=", "!=", "<", ">", "-eq", "-ne", "-gt", "-ge", "-lt", "-le", "-nt", "-ot",
      "-ef"].contains s then some .binary
  else if s = "!" then some .not
  else if s = "-a" || s = "-o" then some .joining
  else if s = "(" || s = ")" then some .paren
  else none

/-- Whether a unary operator is an operand here: nothing follows, or a binary operator with its
operand does. -/
def isOperand (after : List String) : Bool :=
  match after with
  | []          => true
  | [_]         => false
  | next :: _ => form? next = some .binary

/-- What the first of some arguments is. -/
inductive Item where
  | nothing
  | operand (s : String)
  | operator (s : String) (form : Form)
deriving DecidableEq, Repr

/-- What the first of some arguments is. -/
def item : List String → Item
  | [] => .nothing
  | s :: after =>
    match form? s with
    | none => .operand s
    | some form =>
      if (form = .unary && isOperand after) || (s = "(" && after.isEmpty) then .operand s
      else .operator s form

/-! ### Files and numbers -/

/-- Whether a condition holds of what a name leads to. -/
def ofFile (operator name : String) : Act Bool := do
  let follows := operator != "-h" && operator != "-L"
  match ← Act.kind? follows name with
  | none => return false
  | some (kind, path) =>
    let v ← Act.volume
    let mode := Act.modeAt v path
    match operator with
    | "-e" | "-r" | "-w" | "-O" | "-G" => return true
    | "-x" => return kind = .directory || Act.mayRun mode
    | "-f" => return kind = .file
    | "-d" => return kind = .directory
    | "-c" => return kind = .device
    | "-p" => return kind = .pipe
    | "-h" | "-L" => return kind = .link
    | "-u" => return mode &&& 0o4000 != 0
    | "-g" => return mode &&& 0o2000 != 0
    | "-k" => return mode &&& 0o1000 != 0 || path = ["/", "tmp"]
    | "-s" => return kind = .directory || (kind = .file && !((Act.contentsAt? v path).getD []).isEmpty)
    | _ => return false

/-- When something was changed. -/
def age? (name : String) : Act (Option Int) := do
  match ← Act.kind? true name with
  | none           => return none
  | some (_, path) => return some (Act.changedAt (← Act.volume) path)

/-- The number of an argument. -/
def number (s : String) : Act Int := do
  match Arithmetic.integer? 10 s with
  | some n => return n
  | none   => Act.fail ("Illegal number: " ++ s)

/-- Whether a condition of one operand holds. -/
def unary (operator s : String) : Act Bool := do
  match operator with
  | "-z" => return s = ""
  | "-n" => return s != ""
  | "-t" =>
    let _ ← number s
    return false
  | operator => ofFile operator s

/-- Whether a condition of two operands holds. -/
def binary (a operator b : String) : Act Bool := do
  let compare (p : Int → Int → Bool) : Act Bool := do
    let m ← number a
    return p m (← number b)
  let ages (p : Int → Int → Bool) : Act Bool := do
    match ← age? a, ← age? b with
    | some m, some n => return p m n
    | _, _           => return false
  match operator with
  | "="   => return a = b
  | "!="  => return a != b
  | "<"   => return a < b
  | ">"   => return b < a
  | "-eq" => compare (· = ·)
  | "-ne" => compare (· != ·)
  | "-gt" => compare (· > ·)
  | "-ge" => compare (· ≥ ·)
  | "-lt" => compare (· < ·)
  | "-le" => compare (· ≤ ·)
  | "-nt" => ages (· > ·)
  | "-ot" => ages (· < ·)
  | _ =>
    match ← Act.kind? true a, ← Act.kind? true b with
    | some (_, p), some (_, q) => return p = q || ((← Act.volume).namesOf p).contains q
    | _, _                     => return false

/-! ### Reading -/

/-- Decides a condition at the beginning of some arguments. Answers also the arguments from the last
one on that belongs to it. -/
abbrev Decision := Act (Bool × List String)

/-- A fault at an argument. -/
def refuse {α : Type} (at_ what : String) : Act α := Act.fail (at_ ++ ": " ++ what)

mutual

/-- Conditions joined by `-o`. -/
def disjunction : (fuel : Nat) → List String → Decision
  | 0, args => return (false, args)
  | fuel + 1, args => do
    let (a, last) ← conjunction fuel args
    match last.tail with
    | "-o" :: rest =>
      let (b, last) ← disjunction fuel rest
      return (a || b, last)
    | _ => return (a, last)

/-- Conditions joined by `-a`. -/
def conjunction : (fuel : Nat) → List String → Decision
  | 0, args => return (false, args)
  | fuel + 1, args => do
    let (a, last) ← negation fuel args
    match last.tail with
    | "-a" :: rest =>
      let (b, last) ← conjunction fuel rest
      return (a && b, last)
    | _ => return (a, last)

/-- A condition with marks of negation in front. -/
def negation : (fuel : Nat) → List String → Decision
  | 0, args => return (false, args)
  | fuel + 1, args => do
    match item args with
    | .operator "!" _ =>
      if args.tail.isEmpty then return (true, args)
      let (a, last) ← negation fuel args.tail
      return (!a, last)
    | _ => primary fuel args

/-- A condition without joints. -/
def primary : (fuel : Nat) → List String → Decision
  | 0, args => return (false, args)
  | fuel + 1, args => do
    match item args, args with
    | .nothing, _ | _, [] => return (false, args)
    | .operator "(" _, _ :: inside =>
      match item inside with
      | .operator ")" _ => return (false, inside)
      | _ =>
        let (a, last) ← disjunction fuel inside
        match last.tail with
        | ")" :: rest => return (a, ")" :: rest)
        | _           => Act.fail "closing paren expected"
    | .operator operator .unary, _ :: after =>
      match after with
      | []     => refuse operator "argument expected"
      | s :: _ => return (← unary operator s, after)
    | _, s :: after =>
      match item after, after with
      | .operator operator .binary, _ :: rest =>
        match rest with
        | []     => refuse operator "argument expected"
        | b :: _ => return (← binary s operator b, rest)
      | _, _ => return (s != "", s :: after)

end

/-- Decides what is left after the arguments were told apart by their number. -/
def descend (args : List String) : Act Bool := do
  let (a, last) ← disjunction (4 * args.length + 8) args
  match last with
  | at_ :: _ :: _ => refuse at_ "unexpected operator"
  | _             => return a

/-- Decides a condition by the number of its arguments. Marks of negation in front of three or four
of them negate it once. -/
def decideAll : (fuel : Nat) → (negated : Bool) → List String → Act Bool
  | 0, negated, _ => return negated
  | fuel + 1, negated, args => do
    let parenthesised := args.head? = some "(" && args.getLast? = some ")"
    match args with
    | [] => return negated
    | [a, operator, b] =>
      if form? operator = some .binary then return (← binary a operator b) != negated
      else if parenthesised then return (← descend [operator]) != negated
      else if a = "!" then decideAll fuel true [operator, b]
      else return (← descend args) != negated
    | [a, b, c, d] =>
      if parenthesised then return (← descend [b, c]) != negated
      else if a = "!" then decideAll fuel true [b, c, d]
      else return (← descend args) != negated
    | args => return (← descend args) != negated

/-- The status of a condition. -/
def status (args : List String) : Act Nat := do
  return if ← decideAll (args.length + 1) false args then 0 else 1

end BoardConsole.Shell.Test
