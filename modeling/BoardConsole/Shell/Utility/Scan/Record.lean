import BoardConsole.Shell.Utility.Scan.Value
import BoardConsole.Shell.Utility.Scan.Pattern

/-!
# Shell — Records and fields

How a text is cut into records, and a record into fields. What stands between them is one character,
blanks, or what fits a regular expression; an empty separator makes every character a field, and of
records it says that empty lines stand between them.
-/

namespace BoardConsole.Shell.Scan

/-! ### Fields -/

/-- What stands between parts. -/
inductive Separator where
  | blanks
  /-- Every character is a part. -/
  | nothing
  | char (c : Char)
  | regex (r : Regex)

/-- The separator that a text stands for; nothing where a regular expression must be read. -/
def separatorOf? (s : String) : Option Separator :=
  match s.toList with
  | []    => some .nothing
  | [' '] => some .blanks
  | [c]   => some (.char c)
  | _     => none

/-- The first match that is not empty in a text behind some characters, which stand last first: what
stands before it, last first, what it is, and what follows. -/
def findFilled (r : Regex) : (passed rest own : List Char) →
    Option (List Char × List Char × List Char)
  | _, [], _ => none
  | passed, c :: cs, own =>
    match Regex.matchAt false r (.first passed (c :: cs)) with
    | some p =>
      if 0 < p.offset then some (own, (c :: cs).take p.offset, p.rest)
      else findFilled r (c :: passed) cs (c :: own)
    | none => findFilled r (c :: passed) cs (c :: own)

/-- The parts of a text that matches stand between. -/
def partsBetween (r : Regex) : (fuel : Nat) → (passed rest : List Char) → List (List Char)
  | 0, _, rest => [rest]
  | fuel + 1, passed, rest =>
    match findFilled r passed rest [] with
    | none => [rest]
    | some (before, found, after) =>
      before.reverse :: partsBetween r fuel (found.reverse ++ before ++ passed) after

/-- The words of a text. -/
def wordsOf : (fuel : Nat) → List Char → List (List Char)
  | 0, _ => []
  | fuel + 1, cs =>
    let cs := cs.dropWhile isGap
    let word := cs.takeWhile fun c => !isGap c
    if word.isEmpty then [] else word :: wordsOf fuel (cs.drop word.length)

/-- The fields of a text. -/
def Separator.cut (s : Separator) (text : String) : List String :=
  if text = "" then []
  else
    match s with
    | blanks   => (wordsOf text.length text.toList).map String.ofList
    | nothing  => text.toList.map fun c => String.ofList [c]
    | char c   => text.splitOn (String.ofList [c])
    | .regex r => (partsBetween r text.length [] text.toList).map String.ofList

/-! ### Records -/

/-- The first record of a text, and what follows it. -/
def takeRecord (s : Separator) (text : List Char) : List Char × List Char :=
  match s with
  | .nothing =>
    let text := text.dropWhile (· = '\n')
    paragraph text []
  | .blanks => upTo ' ' text
  | .char c => upTo c text
  | .regex r =>
    match findFilled r [] text [] with
    | some (before, _, after) => (before.reverse, after)
    | none                    => (text, [])
where
  /-- What stands before a character, and what follows that. -/
  upTo (c : Char) (text : List Char) : List Char × List Char :=
    let record := text.takeWhile (· != c)
    (record, (text.drop record.length).drop 1)
  /-- What stands before empty lines, and what follows them. -/
  paragraph : List Char → (taken : List Char) → List Char × List Char
    | [], taken                => (taken.reverse, [])
    | ['\n'], taken            => (taken.reverse, [])
    | '\n' :: '\n' :: r, taken => (taken.reverse, r.dropWhile (· = '\n'))
    | c :: r, taken            => paragraph r (c :: taken)

end BoardConsole.Shell.Scan
