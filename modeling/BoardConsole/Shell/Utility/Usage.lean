import BoardConsole.Shell.Program
import BoardConsole.Shell.Quoting

/-!
# Shell — How utilities are used

Utilities take options in any order with their operands, as letters or as long names. A usage lists
both; what is not in it is refused.
-/

namespace BoardConsole.Shell

/-- How a utility is used. -/
structure Usage where
  program : String
  /-- The letters of the options; a colon after one says that an argument follows. -/
  letters : String
  /-- The long names of options, each with the letter that it stands for. -/
  names   : List (String × Char)
  /-- The status where the utility is not used in this way. -/
  misuse  : Nat
  /-- Whether what is said after a message begins with the name too. -/
  named   : Bool := false

namespace Usage

/-- What is said after a message about the usage. -/
def hint (u : Usage) : String :=
  (if u.named then u.program ++ ": " else "") ++ "Try '" ++ u.program ++
    " --help' for more information."

/-- The option that asks how a utility is used, and the one that asks which it is. -/
def helpLetter : Char := '¿'

def versionLetter : Char := '¡'

/-- All long names. -/
def allNames (u : Usage) : List (String × Char) :=
  u.names ++ [("help", helpLetter), ("version", versionLetter)]

/-- Why a long name means nothing. -/
inductive NameFault where
  | unknown
  | ambiguous (names : List String)

/-- The long name that a text means: one that it is, or the only one that it begins. -/
def longName? (u : Usage) (s : String) : Except NameFault (String × Char) :=
  match u.allNames.find? (·.1 = s) with
  | some found => .ok found
  | none =>
    match u.allNames.filter fun n => n.1.startsWith s with
    | []            => .error .unknown
    | found :: more =>
      if more.all (·.2 = found.2) then .ok found
      else .error (.ambiguous ((found :: more).map (·.1)))

/-- What has been read of arguments, last first. -/
structure Reading where
  options  : List (Char × String)
  operands : List String

/-- The reading with one more option. -/
def Reading.add (r : Reading) (letter : Char) (value : List Char) : Reading :=
  { r with options := (letter, String.ofList value) :: r.options }

/-- Reads arguments; the options may stand behind operands unless `inOrder` is set. -/
def readAll (u : Usage) (inOrder : Bool) : (fuel : Nat) → Reading → List String →
    Except String Reading
  | 0, r, _ => .ok r
  | _, r, [] => .ok r
  | fuel + 1, r, a :: rest =>
    if a = "--" then .ok { r with operands := rest.reverse ++ r.operands }
    else
      match a.toList with
      | '-' :: '-' :: long =>
        let name := long.takeWhile (· != '=')
        let given := (long.drop name.length).drop 1
        let hasGiven : Bool := name.length < long.length
        match u.longName? (String.ofList name) with
        | .error .unknown => .error ("unrecognized option '" ++ a ++ "'")
        | .error (.ambiguous names) =>
          .error ("option '" ++ a ++ "' is ambiguous; possibilities:" ++
            String.join (names.map fun n => " '--" ++ n ++ "'"))
        | .ok (full, letter) =>
          if letter = helpLetter || letter = versionLetter then .ok (r.add letter [])
          else
            match Arguments.need? u.letters.toList letter, hasGiven, rest with
            | some .argument, true, _ | some .addition, _, _ =>
              readAll u inOrder fuel (r.add letter given) rest
            | some .argument, false, next :: after =>
              readAll u inOrder fuel (r.add letter next.toList) after
            | some .argument, false, [] =>
              .error ("option '--" ++ full ++ "' requires an argument")
            | _, true, _ => .error ("option '--" ++ full ++ "' doesn't allow an argument")
            | _, false, _ => readAll u inOrder fuel (r.add letter []) rest
      | '-' :: c :: letters =>
        match Arguments.readLetters u.letters.toList (c :: letters) rest with
        | .ok (options, rest) =>
          readAll u inOrder fuel { r with options := options.reverse ++ r.options } rest
        | .error (.unknown c) => .error ("invalid option -- '" ++ String.ofList [c] ++ "'")
        | .error (.lacksArgument c) =>
          .error ("option requires an argument -- '" ++ String.ofList [c] ++ "'")
      | _ =>
        if inOrder then .ok { r with operands := (a :: rest).reverse ++ r.operands }
        else readAll u inOrder fuel { r with operands := a :: r.operands } rest

/-- The arguments, read in some order. -/
def read (u : Usage) (inOrder : Bool) (args : List String) : Except String Arguments :=
  (u.readAll inOrder (args.length + 1) ⟨[], []⟩ args).map fun r =>
    ⟨r.options.reverse, r.operands.reverse⟩

/-- Says what is wrong, and answers a status. -/
def complain (u : Usage) (message : String) : Act Unit :=
  Act.complain (u.program ++ ": " ++ message)

/-- Refuses the arguments. -/
def refuse (u : Usage) (message : String) : Act Nat := do
  u.complain message
  Act.complain u.hint
  return u.misuse

/-- Runs a utility with arguments that were read, unless they only ask what it is. -/
def use (u : Usage) (read : Except String Arguments) (use : Arguments → Act Nat) : Act Nat := do
  match read with
  | .error fault => u.refuse fault
  | .ok a =>
    if a.has helpLetter then
      Act.print ("Usage: " ++ u.program ++ " [OPTION]...\n")
      return 0
    else if a.has versionLetter then
      Act.print (u.program ++ "\n")
      return 0
    else use a

/-- Runs a utility with its arguments. -/
def run (u : Usage) (args : List String) : (use : Arguments → Act Nat) → Act Nat :=
  u.use (u.read false args)

/-- Runs a utility whose operands are a command with options of its own. -/
def runInOrder (u : Usage) (args : List String) : (use : Arguments → Act Nat) → Act Nat :=
  u.use (u.read true args)

end Usage

namespace Utility

open Act

/-- A text in single quotes, as messages show arguments. -/
def cited (s : String) : String := Quoting.apply .single s

/-- A text in quotes, as messages show names. -/
def quoted (s : String) : String := Quoting.apply (.shell true true) s

/-- A name in front of a message, in quotes only where it needs them. -/
def shownName (s : String) : String :=
  if s.contains ':' then quoted s else Quoting.apply (.shell false true) s

/-- The text of an input: a file, or the standard input for `-`. -/
def readInput (name : String) : Act (Except String String) := do
  if name = "-" then return (← readAll? 0).mapError (·.reason) else readFile name

/-- The texts of inputs, of the standard input where none is named. What cannot be read is
complained about with some words. -/
def readInputs (words : String → String → String) (names : List String) :
    Act (List (String × String) × Bool) := do
  let names := if names.isEmpty then ["-"] else names
  let mut texts := []
  let mut failed := false
  for name in names do
    match ← readInput name with
    | .ok text => texts := (name, text) :: texts
    | .error reason =>
      complain (words name reason)
      failed := true
  return (texts.reverse, failed)

/-- The words for an input that cannot be read. -/
def plainWords (program name reason : String) : String :=
  program ++ ": " ++ shownName name ++ ": " ++ reason

/-- Prints a text, and answers a status; writing may fail. -/
def printChecked (program text : String) : Act Nat := do
  match ← write 1 text with
  | none => return 0
  | some fault =>
    complain (program ++ ": write error: " ++ fault.reason)
    return 1

/-- Prints a text at the end of a utility that may have failed already. -/
def finish (program text : String) (failed : Bool) : Act Nat := do
  let n ← printChecked program text
  return if failed then 1 else n

/-- The status of a run that may have failed. -/
def statusOf (failed : Bool) : Nat := if failed then 1 else 0

end Utility

end BoardConsole.Shell
