import BoardConsole.Shell.Process
import BoardConsole.Shell.Arithmetic

/-!
# Shell — Arguments of commands

Options, names and numbers as the commands of a shell read them from their arguments.
-/

namespace BoardConsole.Shell

/-- The options and the arguments after them. -/
structure Arguments where
  options : List (Char × String)
  rest    : List String

namespace Arguments

/-- Whether an option is given. -/
def has (a : Arguments) (letter : Char) : Bool := a.options.any (·.1 = letter)

/-- The argument of the last option of a letter. -/
def last? (a : Arguments) (letter : Char) : Option String := a.options.reverse.lookup letter

/-- Why options cannot be read. -/
inductive Fault where
  | unknown (letter : Char)
  | lacksArgument (letter : Char)
deriving DecidableEq, Repr

/-- What follows an option. -/
inductive Need where
  | nothing
  | argument
  /-- An argument, but only as a part of the option. -/
  | addition
deriving DecidableEq, Repr

/-- What an option needs among those that are known: a colon after a letter stands for an argument,
and two for an addition. -/
def need? (known : List Char) (letter : Char) : Option Need :=
  match known with
  | [] => none
  | ':' :: rest => need? rest letter
  | c :: rest =>
    if c = letter then
      match rest with
      | ':' :: ':' :: _ => some .addition
      | ':' :: _        => some .argument
      | _               => some .nothing
    else need? rest letter

/-- Reads the letters of one argument. -/
def readLetters (known : List Char) (letters : List Char) (rest : List String) :
    Except Fault (List (Char × String) × List String) :=
  match letters with
  | [] => .ok ([], rest)
  | c :: more =>
    match need? known c, rest with
    | none, _ => .error (.unknown c)
    | some .nothing, _ => (readLetters known more rest).map fun (o, r) => ((c, "") :: o, r)
    | some .addition, _ => .ok ([(c, String.ofList more)], rest)
    | some .argument, next :: after =>
      if more.isEmpty then .ok ([(c, next)], after) else .ok ([(c, String.ofList more)], rest)
    | some .argument, [] =>
      if more.isEmpty then .error (.lacksArgument c) else .ok ([(c, String.ofList more)], rest)

/-- Reads the options at the beginning of arguments; `--` ends them. -/
def read (known : String) : (fuel : Nat) → List String → Except Fault Arguments
  | 0, args => .ok ⟨[], args⟩
  | _, [] => .ok ⟨[], []⟩
  | fuel + 1, a :: rest =>
    if a = "--" then .ok ⟨[], rest⟩
    else
      match a.toList with
      | '-' :: c :: letters => do
        let (options, rest) ← readLetters known.toList (c :: letters) rest
        let more ← read known fuel rest
        return ⟨options ++ more.options, more.rest⟩
      | _ => .ok ⟨[], a :: rest⟩

end Arguments

namespace Act

/-- Reads the options of a builtin. -/
def options (known : String) (args : List String) : Act Arguments := do
  match Arguments.read known (args.length + 1) args with
  | .ok a                      => return a
  | .error (.unknown c)        => fail ("Illegal option -" ++ String.ofList [c])
  | .error (.lacksArgument c)  => fail ("No arg for -" ++ String.ofList [c] ++ " option")

/-- Reads the options of a builtin that has none. -/
def withoutOptions (args : List String) : Act (List String) := return (← options "" args).rest

/-- The greatest number that counts. -/
def greatestCount : Int := 2147483647

/-- The number of an argument. -/
def number (s : String) : Act Nat := do
  match Arithmetic.integer? 10 s with
  | some n => if 0 ≤ n && n ≤ greatestCount then return n.toNat else fail ("Illegal number: " ++ s)
  | none   => fail ("Illegal number: " ++ s)

/-- A fault unless a text is a name. -/
def checkName (name : String) : Act Unit := do
  if !isName name then fail (name ++ ": bad variable name")

/-- The name and the value of an argument that assigns a variable. -/
def splitAssignment (a : String) : String × Option String :=
  let cs := a.toList
  let name := cs.takeWhile (· != '=')
  match cs.drop name.length with
  | []         => (a, none)
  | _ :: value => (String.ofList name, some (String.ofList value))

/-- A text in single quotes, as it can be read again. -/
def quotedText (s : String) : String :=
  let plain (part : String) : String := if part = "" then "" else "'" ++ part ++ "'"
  if s = "" then "''"
  else
    let rec go : List Char → (run : List Char) → (quotes : Nat) → String
      | [], run, quotes => plain (String.ofList run.reverse) ++ inDoubleQuotes quotes
      | '\'' :: cs, run, quotes =>
        if run.isEmpty then go cs [] (quotes + 1)
        else plain (String.ofList run.reverse) ++ go cs [] 1
      | c :: cs, run, quotes => inDoubleQuotes quotes ++ go cs (c :: run) 0
    go s.toList [] 0
where
  /-- Single quotes in double quotes. -/
  inDoubleQuotes (n : Nat) : String := if n = 0 then "" else "\"" ++ repeated n '\'' ++ "\""

end Act

end BoardConsole.Shell
