import BoardConsole.Shell.Utility.Text

/-!
# Shell — Beginnings and ends of inputs

`head` prints the first lines or bytes of inputs and `tail` the last ones. A count with a sign leaves
out instead: `-` as many at the end, `+` those before that one. Of an input that others read too, no
more is taken than is needed.
-/

namespace BoardConsole.Shell.Utility

open Act

def headUsage : Usage :=
  { program := "head", letters := "n:c:qvz", misuse := 1
    names := [("lines", 'n'), ("bytes", 'c'), ("quiet", 'q'), ("silent", 'q'), ("verbose", 'v'),
      ("zero-terminated", 'z')] }

def tailUsage : Usage :=
  { program := "tail", letters := "n:c:qvfFs:zπ:ρ", misuse := 1
    names := [("lines", 'n'), ("bytes", 'c'), ("quiet", 'q'), ("silent", 'q'), ("verbose", 'v'),
      ("follow", 'f'), ("sleep-interval", 's'), ("zero-terminated", 'z'), ("pid", 'π'),
      ("retry", 'ρ')] }

/-- A count with the sign in front of it. -/
structure Count where
  sign  : Option Char
  count : Nat

/-- The count that a text spells. -/
def count? (s : String) : Option Count :=
  match s.toList with
  | c :: cs =>
    if c = '-' || c = '+' then (sizeValue? (String.ofList cs)).map fun n => ⟨some c, n⟩
    else (sizeValue? s).map fun n => ⟨none, n⟩
  | [] => none

/-- The part of some items that `head` prints. -/
def firstOf {α : Type} (c : Count) (items : List α) : List α :=
  if c.sign = some '-' then items.take (items.length - c.count) else items.take c.count

/-- The part of some items that `tail` prints. -/
def lastOf {α : Type} (c : Count) (items : List α) : List α :=
  if c.sign = some '+' then items.drop (c.count - 1) else items.drop (items.length - c.count)

/-- What is counted, how many of them, and what ends a line. -/
structure Portion where
  byLines : Bool
  count   : Count
  ending  : Char

/-- What the options of `head` and `tail` ask for. -/
def Portion.ofArguments (u : Usage) (a : Arguments) : Except String Portion :=
  let ending := if a.has 'z' then '\x00' else '\n'
  match a.options.reverse.find? fun o => o.1 = 'n' || o.1 = 'c' with
  | none => .ok ⟨true, ⟨none, 10⟩, ending⟩
  | some (letter, s) =>
    match count? s with
    | some c => .ok ⟨letter = 'n', c, ending⟩
    | none =>
      let what := if letter = 'n' then "lines" else "bytes"
      let digits := s.dropWhile fun c => c = '-' && u.program = "head"
      .error ("invalid number of " ++ what ++ ": " ++ cited digits.toString)

/-- The part of a text that a choice of its lines or bytes leaves. -/
def Portion.cut (p : Portion) (choose : {α : Type} → Count → List α → List α) (s : String) : String :=
  if p.byLines then
    String.join (choose p.count (recordsOf (String.ofList [p.ending]) s))
  else String.ofList (choose p.count s.toList)

/-- How much of a text its first lines are, if it has so many. -/
def lengthOfLines (ending : Char) : (count passed : Nat) → List Char → Option Nat
  | 0, passed, _     => some passed
  | _ + 1, _, []     => none
  | n + 1, passed, c :: cs => lengthOfLines ending (if c = ending then n else n + 1) (passed + 1) cs

/-- How much of an input `head` needs. Where it leaves out some at the end, it needs all of a pipe; a
file is read up to those. -/
def Portion.need (p : Portion) (isFile : Bool) (cs : List Char) : Option Nat :=
  if p.count.sign = some '-' then
    if isFile then some (p.cut firstOf (String.ofList cs)).length else none
  else if p.byLines then lengthOfLines p.ending p.count.count 0 cs
  else if (cs.drop (p.count.count - 1)).isEmpty && p.count.count != 0 then none
  else some p.count.count

/-- Prints parts of inputs, with titles where there are several. -/
def portions (u : Usage) (a : Arguments) (read : Portion → String → Act (Except String String))
    (choose : {α : Type} → Count → List α → List α) : Act Nat := do
  match Portion.ofArguments u a with
  | .error message =>
    u.complain message
    return 1
  | .ok p =>
    let names := if a.rest.isEmpty then ["-"] else a.rest
    let titled := (names.length > 1 || a.has 'v') && !a.has 'q'
    let mut failed := false
    let mut first := true
    let mut out := []
    for name in names do
      match ← read p name with
      | .error reason =>
        failed := true
        if reason = PathFault.isADirectory.reason then
          if titled then
            out := ((if first then "" else "\n") ++ "==> " ++ name ++ " <==\n") :: out
            first := false
          u.complain ("error reading " ++ quoted name ++ ": " ++ reason)
        else u.complain ("cannot open " ++ quoted name ++ " for reading: " ++ reason)
      | .ok text =>
        let shown := if name = "-" then "standard input" else name
        let title := if titled then (if first then "" else "\n") ++ "==> " ++ shown ++ " <==\n" else ""
        first := false
        out := (title ++ p.cut choose text) :: out
    finish u.program (String.join out.reverse) failed

/-- Arguments in which a count written as an option of its own stands as the argument of one. -/
def withCountOption (args : List String) : List String :=
  match args with
  | a :: rest =>
    match a.toList with
    | '-' :: c :: cs =>
      if !c.isDigit then args
      else
        let digits := (c :: cs).takeWhile Char.isDigit
        let letters := cs.drop (digits.length - 1)
        let unit := letters.filter ['b', 'k', 'm'].contains
        let byBytes := letters.contains 'c' || !unit.isEmpty
        let others := (letters.filter ['q', 'v', 'z', 'f'].contains).map fun c => String.ofList ['-', c]
        ((if byBytes then "-c" else "-n") ++ String.ofList (digits ++ unit)) :: others ++ rest
    | _ => args
  | [] => []

/-- Prints the beginnings of inputs. -/
def head : Builtin := fun _ args => headUsage.run (withCountOption args) fun a =>
  let read (p : Portion) (name : String) : Act (Except String String) :=
    let least := if p.byLines then 0 else p.count.count
    if name = "-" then return (← readNeeded 0 least p.need).mapError (·.reason)
    else readingFile name fun d => readNeeded d least p.need
  portions headUsage a read firstOf

/-- Prints the ends of inputs. -/
def tail : Builtin := fun _ args =>
  let args := match args with
    | a :: rest =>
      match a.toList with
      | '+' :: c :: cs =>
        if !c.isDigit then args
        else if cs.getLast? = some 'c' then ("-c+" ++ String.ofList (c :: cs.dropLast)) :: rest
        else ("-n+" ++ String.ofList (c :: cs)) :: rest
      | _ => args
    | [] => []
  tailUsage.run (withCountOption args) fun a =>
    portions tailUsage a (fun _ name => readInput name) lastOf

end BoardConsole.Shell.Utility
