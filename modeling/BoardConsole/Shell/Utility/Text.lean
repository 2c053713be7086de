import BoardConsole.Shell.Utility.Usage

/-!
# Shell — Utilities that pass text on

What these print is a part of their inputs, or all of it, in some order.
-/

namespace BoardConsole.Shell.Utility

open Act

/-! ### Lines -/

/-- The lines of a text with their ends. A last line without an end counts. -/
def linesWithEnds (s : String) : List String :=
  match (s.splitOn "\n").reverse with
  | ""   :: rest => (rest.map (· ++ "\n")).reverse
  | last :: rest => (last :: rest.map (· ++ "\n")).reverse
  | []           => []

/-- A line without its end. -/
def withoutEnd (line : String) : String :=
  String.ofList (line.toList.takeWhile (· != '\n'))

/-- The letters of the powers of a thousand, or of 1024. -/
def unitLetters : List Char := ['K', 'M', 'G', 'T', 'P', 'E', 'Z', 'Y', 'R', 'Q']

/-- How much a unit counts for. -/
def unitValue? (s : String) : Option Nat :=
  match s.toList with
  | []       => some 1
  | ['b']    => some 512
  | c :: rest =>
    let power := (unitLetters.findIdx? (· = if c = 'k' || c = 'm' then c.toUpper else c)).map (· + 1)
    match power, rest with
    | some n, []         => some (Nat.pow 1024 n)
    | some n, ['i', 'B'] => some (Nat.pow 1024 n)
    | some n, ['B']      => some (Nat.pow 1000 n)
    | _, _               => none

/-- The number that a text spells, with the unit after it. -/
def sizeValue? (s : String) : Option Nat :=
  let digits := s.toList.takeWhile Char.isDigit
  let unit := unitValue? (String.ofList (s.toList.drop digits.length))
  if digits.isEmpty then none else unit.map (Arithmetic.valueOf 10 digits * ·)

/-! ### Whole texts -/

def catUsage : Usage :=
  { program := "cat", letters := "AbeEnstTuv", misuse := 1
    names := [("number", 'n'), ("number-nonblank", 'b'), ("squeeze-blank", 's'), ("show-ends", 'E'),
      ("show-tabs", 'T'), ("show-all", 'A'), ("show-nonprinting", 'v')] }

/-- A character that is not printed, in letters that are. -/
def visible (tabs : Bool) (c : Char) : String :=
  let low (n : Nat) : String :=
    if n = 127 then "^?" else if n < 32 then "^" ++ String.ofList [Char.ofNat (n + 64)]
    else String.ofList [Char.ofNat n]
  if c = '\t' then (if tabs then "^I" else "\t")
  else if c.toNat < 128 then low c.toNat else "M-" ++ low (c.toNat - 128)

/-- A line as its options show it. -/
def shownLine (a : Arguments) (line : String) : String :=
  let ended := line.endsWith "\n"
  let text := withoutEnd line
  let hidden := ['v', 'A', 'e', 't'].any a.has
  let tabs := ['T', 'A', 't'].any a.has
  let text :=
    if hidden then String.join (text.toList.map (visible tabs))
    else if tabs then text.replace "\t" "^I"
    else text
  let mark := if ['E', 'A', 'e'].any a.has then "$" else ""
  if ended then text ++ mark ++ "\n" else text

/-- Lines with their numbers. -/
def numbered (skipsBlank : Bool) : (next : Nat) → List String → List String
  | _, [] => []
  | next, line :: rest =>
    if skipsBlank && line = "\n" then line :: numbered skipsBlank next rest
    else
      let digits := toString next
      (repeated (6 - digits.length) ' ' ++ digits ++ "\t" ++ line) ::
        numbered skipsBlank (next + 1) rest

/-- Lines with one empty line where some follow each other. -/
def squeezed : (afterBlank : Bool) → List String → List String
  | _, [] => []
  | afterBlank, line :: rest =>
    if afterBlank && line = "\n" then squeezed true rest
    else line :: squeezed (line = "\n") rest

/-- Prints inputs one after another. -/
def cat : Builtin := fun _ args => catUsage.run args fun a => do
  if (← description? 1).isNone then
    catUsage.complain ("standard output: " ++ TransferFault.badDescriptor.reason)
    return 1
  let mut failed := false
  let mut texts := []
  let plain := a.options.all fun o => o.1 = 'u'
  for name in if a.rest.isEmpty then ["-"] else a.rest do
    match ← readInput name with
    | .ok text => texts := text :: texts
    | .error reason =>
      if !plain then pure () else
        let n ← printChecked "cat" (String.join texts.reverse)
        texts := []
        if n != 0 then return n
      catUsage.complain (shownName name ++ ": " ++ reason)
      failed := true
  let text := String.join texts.reverse
  if plain then return ← finish "cat" text failed
  let lines := linesWithEnds text
  let lines := if a.has 's' then squeezed false lines else lines
  let lines := lines.map (shownLine a)
  let lines := if a.has 'b' then numbered true 1 lines else if a.has 'n' then numbered false 1 lines
    else lines
  finish "cat" (String.join lines) failed

def teeUsage : Usage :=
  { program := "tee", letters := "aip", misuse := 1
    names := [("append", 'a'), ("ignore-interrupts", 'i'), ("output-error", 'p')] }

/-- Prints the standard input, and writes it to files. -/
def tee : Builtin := fun _ args => teeUsage.run args fun a => do
  let text := ((← readAll? 0).toOption).getD ""
  let mut failed := false
  for name in a.rest do
    match ← writeFile name text (a.has 'a') with
    | .ok () => pure ()
    | .error reason =>
      teeUsage.complain (shownName name ++ ": " ++ reason)
      failed := true
  finish "tee" text failed

/-- Prints the lines of inputs, each changed. -/
def eachLine (u : Usage) (change : List String → List String) : Builtin := fun _ args =>
  u.run args fun a => do
    let words := match u.program with
      | "rev"   => fun name reason => "rev: cannot open " ++ name ++ ": " ++ reason
      | program => plainWords program
    let (texts, failed) ← readInputs words a.rest
    finish u.program (String.join (texts.flatMap fun t => change (linesWithEnds t.2))) failed

/-- Prints lines from their ends. -/
def rev : Builtin :=
  eachLine { program := "rev", letters := "", names := [], misuse := 1 } fun lines =>
    lines.map fun line =>
      String.ofList (withoutEnd line).toList.reverse ++ (if line.endsWith "\n" then "\n" else "")

/-- The pieces of a text that a separator ends, each with it. -/
def recordsOf (separator text : String) : List String :=
  match (text.splitOn separator).reverse with
  | ""   :: rest => (rest.map (· ++ separator)).reverse
  | last :: rest => (last :: rest.map (· ++ separator)).reverse
  | []           => []

/-- The pieces of a text that a separator begins, each with it. -/
def recordsBefore (separator text : String) : List String :=
  match text.splitOn separator with
  | ""    :: rest => rest.map (separator ++ ·)
  | first :: rest => first :: rest.map (separator ++ ·)
  | []            => []

def tacUsage : Usage :=
  { program := "tac", letters := "brs:", misuse := 1
    names := [("before", 'b'), ("regex", 'r'), ("separator", 's')] }

/-- Prints lines, the last first. -/
def tac : Builtin := fun _ args => tacUsage.run args fun a => do
  let words (name reason : String) : String :=
    if reason = PathFault.isADirectory.reason then "tac: " ++ name ++ ": read error: " ++ reason
    else "tac: failed to open " ++ quoted name ++ " for reading: " ++ reason
  let (texts, failed) ← readInputs words a.rest
  let separator := match a.last? 's' with
    | none    => "\n"
    | some "" => "\x00"
    | some s  => s
  let split := if a.has 'b' then recordsBefore separator else recordsOf separator
  finish "tac" (String.join (texts.flatMap fun t => (split t.2).reverse)) failed

end BoardConsole.Shell.Utility
