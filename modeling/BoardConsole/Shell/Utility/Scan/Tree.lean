import BoardConsole.Shell.Regex

/-!
# Shell — Scanning programs

What a program for scanning records says: rules that select records, each with statements, and
functions. Names of variables have been replaced by numbers; those of a function's own parameters are
counted apart from those that all share.
-/

namespace BoardConsole.Shell.Scan

/-- A variable: one for all, or a parameter. -/
inductive Slot where
  | shared (n : Nat)
  | own (n : Nat)
deriving DecidableEq, Repr

/-- An operation on two numbers. -/
inductive Operator where
  | add
  | subtract
  | multiply
  | divide
  | remainder
  | power
deriving DecidableEq, Repr

/-- A relation of two values. -/
inductive Relation where
  | equal
  | unequal
  | less
  | atMost
  | greater
  | atLeast
deriving DecidableEq, Repr

/-- Whether a relation holds between values of some order. -/
def Relation.holds (r : Relation) (order : Ordering) : Bool :=
  match r with
  | equal   => order = .eq
  | unequal => order != .eq
  | less    => order = .lt
  | atMost  => order != .gt
  | greater => order = .gt
  | atLeast => order != .lt

/-- A function that every program has. -/
inductive Known where
  | length
  | index
  | substr
  | sprintf
  | sin
  | cos
  | atan2
  | exp
  | log
  | sqrt
  | int
  | rand
  | srand
  | close
  | system
  | toupper
  | tolower
  | fflush
  | find
  | systime
  | mktime
  | strftime
deriving DecidableEq, Repr

mutual

/-- What can be assigned. -/
inductive Place where
  | slot (s : Slot)
  | field (e : Expr)
  | element (s : Slot) (keys : List Expr)

/-- An expression. -/
inductive Expr where
  | number (x : Float)
  | text (s : String)
  /-- Whether the record fits; the regular expression itself, where one is asked for. -/
  | fits (r : Regex)
  | value (p : Place)
  | assign (p : Place) (e : Expr)
  | change (p : Place) (o : Operator) (e : Expr)
  /-- Adds to a place, and is worth what it held before that, or after it. -/
  | step (p : Place) (by_ : Float) (after : Bool)
  | choose (c a b : Expr)
  | either (a b : Expr)
  | both (a b : Expr)
  | not (e : Expr)
  | negate (e : Expr)
  | plus (e : Expr)
  | calculate (o : Operator) (a b : Expr)
  | relate (r : Relation) (a b : Expr)
  | compare (negated : Bool) (e r : Expr)
  | has (s : Slot) (keys : List Expr)
  | join (a b : Expr)
  | call (number : Nat) (arguments : List Expr)
  | known (f : Known) (arguments : List Expr)
  | split (e : Expr) (s : Slot) (separator : Option Expr)
  | substitute (all : Bool) (r e : Expr) (p : Option Place)
  | read (source : Source) (p : Option Place)

/-- Where a record is read from. -/
inductive Source where
  | input
  | file (e : Expr)
  | command (e : Expr)

end

/-- Where something is printed to. -/
inductive Outlet where
  | file
  | appended
  | command
deriving DecidableEq, Repr

/-- A statement. -/
inductive Statement where
  | act (e : Expr)
  | print (items : List Expr) (target : Option (Outlet × Expr))
  | format (items : List Expr) (target : Option (Outlet × Expr))
  | choose (c : Expr) (yes : Statement) (no : Option Statement)
  | whilst (c : Expr) (body : Statement)
  | once (body : Statement) (c : Expr)
  | turns (first c step : Option Expr) (body : Statement)
  | each (s table : Slot) (body : Statement)
  | block (body : List Statement)
  | next
  | nextFile
  | exit (e : Option Expr)
  | give (e : Option Expr)
  | leave
  | again
  | delete (s : Slot) (keys : List Expr)
  | clear (s : Slot)

/-- Which records a rule is for. -/
inductive Selection where
  | all
  | when (e : Expr)
  | range (number : Nat) (first last : Expr)

/-- A rule. -/
structure Rule where
  selection : Selection
  body      : List Statement

/-- A function of a program. -/
structure Routine where
  parameters : Nat
  /-- The parameters that stand for tables. -/
  tables     : List Nat
  body       : List Statement

instance : Inhabited Routine := ⟨⟨0, [], []⟩⟩

/-- A program. -/
structure Program where
  /-- What is done before the first record. -/
  begins   : List (List Statement)
  rules    : List Rule
  /-- What is done after the last record. -/
  ends     : List (List Statement)
  routines : Array Routine
  /-- The names of the shared variables. -/
  names    : Array String

/-- The shared variables that have a meaning of their own, in the order of their numbers. -/
def standingNames : Array String :=
  #["NF", "NR", "FNR", "FS", "OFS", "ORS", "RS", "SUBSEP", "CONVFMT", "OFMT", "RSTART", "RLENGTH",
    "FILENAME", "ENVIRON", "ARGC", "ARGV"]

/-- The number of a variable that has a meaning of its own. -/
def standing (name : String) : Nat := (standingNames.idxOf? name).getD 0

/-! ### Parameters that stand for tables -/

mutual

/-- The variables that an expression uses as tables, where some parameters of functions are known to
stand for such. -/
def Expr.tables (known : Nat → Nat → Bool) : Expr → List Slot
  | .number _ | .text _ | .fits _ => []
  | .value p | .step p _ _        => p.tables known
  | .assign p e | .change p _ e   => p.tables known ++ e.tables known
  | .choose c a b                 => c.tables known ++ a.tables known ++ b.tables known
  | .either a b | .both a b | .calculate _ a b | .relate _ a b | .compare _ a b | .join a b =>
    a.tables known ++ b.tables known
  | .not e | .negate e | .plus e  => e.tables known
  | .has s keys                   => s :: tablesOfAll known keys
  | .call n arguments             => tablesOfArguments known n 0 arguments
  | .known _ arguments            => tablesOfAll known arguments
  | .split e s none               => s :: e.tables known
  | .split e s (some t)           => s :: (e.tables known ++ t.tables known)
  | .substitute _ r e none        => r.tables known ++ e.tables known
  | .substitute _ r e (some p)    => r.tables known ++ e.tables known ++ p.tables known
  | .read source none             => source.tables known
  | .read source (some p)         => source.tables known ++ p.tables known

def Place.tables (known : Nat → Nat → Bool) : Place → List Slot
  | .slot _         => []
  | .field e        => e.tables known
  | .element s keys => s :: tablesOfAll known keys

def Source.tables (known : Nat → Nat → Bool) : Source → List Slot
  | .input               => []
  | .file e | .command e => e.tables known

def tablesOfAll (known : Nat → Nat → Bool) : List Expr → List Slot
  | []      => []
  | e :: es => e.tables known ++ tablesOfAll known es

/-- A variable that is handed to a function stands for a table if the parameter does. -/
def tablesOfArguments (known : Nat → Nat → Bool) (n : Nat) : (k : Nat) → List Expr → List Slot
  | _, []      => []
  | k, e :: es =>
    let own := match e with
      | .value (.slot s) => if known n k then [s] else []
      | _                => []
    own ++ e.tables known ++ tablesOfArguments known n (k + 1) es

end

/-- What an expression that may be missing uses as tables. -/
def tablesOfOption (known : Nat → Nat → Bool) : Option Expr → List Slot
  | none   => []
  | some e => e.tables known

mutual

/-- The variables that a statement uses as tables. -/
def Statement.tables (known : Nat → Nat → Bool) : Statement → List Slot
  | .act e                              => e.tables known
  | .print items none                   => tablesOfAll known items
  | .print items (some (_, e))          => tablesOfAll known items ++ e.tables known
  | .format items none                  => tablesOfAll known items
  | .format items (some (_, e))         => tablesOfAll known items ++ e.tables known
  | .choose c yes none                  => c.tables known ++ yes.tables known
  | .choose c yes (some no)             => c.tables known ++ yes.tables known ++ no.tables known
  | .whilst c body | .once body c       => c.tables known ++ body.tables known
  | .turns first c step body =>
    tablesOfOption known first ++ tablesOfOption known c ++ tablesOfOption known step ++
      body.tables known
  | .each _ s body                      => s :: body.tables known
  | .block body                         => tablesOfBlock known body
  | .exit e | .give e                   => tablesOfOption known e
  | .delete s keys                      => s :: tablesOfAll known keys
  | .clear s                            => [s]
  | .next | .nextFile | .leave | .again => []

def tablesOfBlock (known : Nat → Nat → Bool) : List Statement → List Slot
  | []      => []
  | s :: ss => s.tables known ++ tablesOfBlock known ss

end

/-- Functions with the parameters that stand for tables, found again until there are no more. -/
def withTables : (fuel : Nat) → Array Routine → Array Routine
  | 0, routines => routines
  | fuel + 1, routines =>
    let known (n k : Nat) : Bool := (routines.getD n default).tables.contains k
    let found := routines.map fun f =>
      let own := (tablesOfBlock known f.body).filterMap fun
        | .own n    => some n
        | .shared _ => none
      { f with tables := own.eraseDups }
    if (found.map (·.tables.length)).toList = (routines.map (·.tables.length)).toList then found
    else withTables fuel found

end BoardConsole.Shell.Scan
