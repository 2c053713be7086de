import BoardConsole.Shell.Regex
import BoardConsole.Shell.Utility.Text

/-!
# Shell — Counting and numbering

`wc` counts the lines, words and bytes of inputs; `nl` puts numbers in front of lines. For `nl` a page
has three sections, the head, the body and the foot, each with a style of its own, and lines of
delimiters lead from one to the next.
-/

namespace BoardConsole.Shell.Utility

open Act

/-! ### Counting -/

def wcUsage : Usage :=
  { program := "wc", letters := "lwcmLτ:φ:", misuse := 1
    names := [("lines", 'l'), ("words", 'w'), ("bytes", 'c'), ("chars", 'm'),
      ("max-line-length", 'L'), ("total", 'τ'), ("files0-from", 'φ')] }

/-- What is counted of a text. -/
structure Counts where
  lines   : Nat
  words   : Nat
  bytes   : Nat
  longest : Nat

/-- The number of words in a text. -/
def wordCount (s : String) : Nat :=
  (s.toList.foldl
    (fun (n, inside) c =>
      let blank := Arithmetic.isBlank c
      (if !blank && !inside then n + 1 else n, !blank)) (0, false)).1

/-- A character that is printed, and takes one column. -/
def isPrinted (c : Char) : Bool := ' ' ≤ c && c ≤ '~'

/-- The greatest column that a text reaches. -/
def longestLine (s : String) : Nat :=
  (s.toList.foldl
    (fun (column, longest) c =>
      let column' :=
        if c = '\n' || c = '\r' || c = '\x0c' then 0
        else if c = '\t' then column / 8 * 8 + 8
        else if isPrinted c then column + 1
        else column
      (column', max longest column')) ((0, 0) : Nat × Nat)).2

/-- What is counted of a text. -/
def Counts.ofText (s : String) : Counts where
  lines   := s.toList.count '\n'
  words   := wordCount s
  bytes   := s.length
  longest := longestLine s

/-- The counts of two texts together. -/
def Counts.add (a b : Counts) : Counts :=
  ⟨a.lines + b.lines, a.words + b.words, a.bytes + b.bytes, max a.longest b.longest⟩

/-- The letters of what can be counted. -/
def countLetters : List Char := ['l', 'w', 'c', 'm', 'L']

/-- The counts that are shown, in order. -/
def Counts.shown (a : Arguments) (c : Counts) : List Nat :=
  let all := !countLetters.any a.has
  (if all || a.has 'l' then [c.lines] else []) ++ (if all || a.has 'w' then [c.words] else []) ++
    (if a.has 'm' then [c.bytes] else []) ++ (if all || a.has 'c' then [c.bytes] else []) ++
    (if a.has 'L' then [c.longest] else [])

/-- A text filled up on its left. -/
def padLeft (width : Nat) (s : String) : String := repeated (width - s.length) ' ' ++ s

/-- Numbers in columns. -/
def columns (width : Nat) (numbers : List Nat) : String :=
  " ".intercalate (numbers.map fun n => padLeft width (toString n))

/-- Whether a descriptor leads to a file. -/
def readsFile (descriptor : Nat) : Act Bool := do
  return match ← description? descriptor with
    | some (_, ⟨.file _, _, _, _, _⟩) => true
    | _ => false

/-- Counts lines, words and bytes. -/
def wc : Builtin := fun _ args => wcUsage.run args fun a => do
  let names ← match a.last? 'φ' with
    | some list => do
      match ← readInput list with
      | .ok text => pure ((text.splitOn "\x00").filter (· != ""))
      | .error _ => pure []
    | none => pure a.rest
  let mut rows : List (Counts × String) := []
  let mut failed := false
  let mut piped := names.isEmpty && !(← readsFile 0)
  for name in if names.isEmpty then ["-"] else names do
    if name = "-" && !(← readsFile 0) then piped := true
    match ← readInput name with
    | .ok text => rows := (.ofText text, name) :: rows
    | .error reason =>
      wcUsage.complain (shownName name ++ ": " ++ reason)
      failed := true
      if reason = PathFault.isADirectory.reason then
        rows := (⟨0, 0, 0, 0⟩, name) :: rows
        piped := true
    match ← kind? true name with
    | some (.device, _) | some (.pipe, _) => piped := true
    | _ => pure ()
  let total := rows.foldl (fun t row => t.add row.1) ⟨0, 0, 0, 0⟩
  let single := names.length ≤ 1 && (total.shown a).length = 1
  let when_ := (a.last? 'τ').getD "auto"
  let width :=
    if single || when_ = "only" then 1
    else if piped then 7
    else (toString total.bytes).length
  let line (c : Counts) (name : String) : String :=
    columns width (c.shown a) ++ (if name = "" then "" else " " ++ name) ++ "\n"
  let own := String.join (rows.reverse.map fun (c, name) => line c (if names.isEmpty then "" else name))
  let titled := when_ = "always" || (when_ = "auto" && names.length > 1)
  finish "wc"
    (if when_ = "only" then line total "" else own ++ (if titled then line total "total" else "")) failed

/-! ### Numbering -/

def nlUsage : Usage :=
  { program := "nl", letters := "b:w:s:v:i:n:h:f:d:l:p", misuse := 1
    names := [("body-numbering", 'b'), ("header-numbering", 'h'), ("footer-numbering", 'f'),
      ("number-width", 'w'), ("number-separator", 's'), ("starting-line-number", 'v'),
      ("line-increment", 'i'), ("number-format", 'n'), ("section-delimiter", 'd'),
      ("join-blank-lines", 'l'), ("no-renumber", 'p')] }

/-- Which lines of a section are numbered. -/
inductive NumberStyle where
  | all
  | filled
  | none
  | matching (r : Regex)

/-- The style that a text names. -/
def NumberStyle.ofText? (s : String) : Option NumberStyle :=
  match s.toList with
  | ['a']      => some .all
  | ['t']      => some .filled
  | ['n']      => some .none
  | 'p' :: cs  =>
    match Regex.ofText { lenient := true } (String.ofList cs) with
    | .ok r    => some (.matching r)
    | .error _ => Option.none
  | _ => Option.none

/-- How lines are numbered. -/
structure Numbering where
  /-- The styles of the head, the body and the foot. -/
  styles    : List NumberStyle
  width     : Nat
  separator : String
  start     : Int
  step      : Int
  format    : String
  delimiter : String
  /-- How many blank lines count as one. -/
  joined    : Nat
  /-- Whether the numbers begin anew with each section. -/
  renumbers : Bool

/-- A number as it is shown in front of a line. -/
def Numbering.shown (n : Numbering) (number : Int) : String :=
  let digits := toString number
  let filled :=
    match n.format with
    | "ln" => digits ++ repeated (n.width - digits.length) ' '
    | "rz" =>
      let own := toString number.natAbs
      let sign := if number < 0 then "-" else ""
      sign ++ repeated (n.width - sign.length - own.length) '0' ++ own
    | _    => padLeft n.width digits
  filled ++ n.separator

/-- The section that a line of delimiters begins: the head, the body, or the foot. -/
def Numbering.sectionOf? (n : Numbering) (line : String) : Option Nat :=
  if n.delimiter = "" then none
  else if line = n.delimiter ++ n.delimiter ++ n.delimiter then some 0
  else if line = n.delimiter ++ n.delimiter then some 1
  else if line = n.delimiter then some 2
  else none

/-- Lines with their numbers, from a section on. -/
def Numbering.apply (n : Numbering) :
    (sectionNumber : Nat) → (number : Int) → (blanks : Nat) → List String → List String
  | _, _, _, [] => []
  | here, number, blanks, line :: rest =>
    match n.sectionOf? line with
    | some next => "" :: n.apply next (if n.renumbers then n.start else number) blanks rest
    | none =>
      let plain := repeated (n.width + n.separator.length) ' ' ++ line
      let numbered := n.shown number ++ line
      match n.styles.getD here .none with
      | .all =>
        if line = "" && blanks + 1 < n.joined then plain :: n.apply here number (blanks + 1) rest
        else numbered :: n.apply here (number + n.step) 0 rest
      | .filled =>
        if line = "" then plain :: n.apply here number blanks rest
        else numbered :: n.apply here (number + n.step) blanks rest
      | .none => plain :: n.apply here number blanks rest
      | .matching r =>
        if (r.find false line.toList).isSome then
          numbered :: n.apply here (number + n.step) blanks rest
        else plain :: n.apply here number blanks rest

/-- The number that a text spells, with a sign. -/
def signedNumber? (s : String) : Option Int :=
  match s.toList with
  | '-' :: cs => (String.ofList cs).toNat?.map fun n => -(n : Int)
  | '+' :: cs => (String.ofList cs).toNat?.map Int.ofNat
  | _         => s.toNat?.map Int.ofNat

/-- The numbering that arguments ask for. -/
def Numbering.ofArguments (a : Arguments) : Except String Numbering := do
  let style (letter : Char) (what usual : String) : Except String NumberStyle :=
    let s := (a.last? letter).getD usual
    match NumberStyle.ofText? s with
    | some style => .ok style
    | none       => .error ("invalid " ++ what ++ " numbering style: " ++ cited s)
  let number (letter : Char) (what : String) (least : Int) (usual : Int) : Except String Int :=
    match a.last? letter with
    | none   => .ok usual
    | some s =>
      match signedNumber? s with
      | some n => if n < least then .error ("invalid " ++ what ++ ": " ++ cited s) else .ok n
      | none   => .error ("invalid " ++ what ++ ": " ++ cited s)
  let format := (a.last? 'n').getD "rn"
  if !(["ln", "rn", "rz"].contains format) then
    throw ("invalid line numbering format: " ++ cited format)
  let greatest : Int := Nat.pow 2 63
  return {
    styles    := [← style 'h' "header" "n", ← style 'b' "body" "t", ← style 'f' "footer" "n"]
    width     := (← number 'w' "line number field width" 1 6).toNat
    separator := (a.last? 's').getD "\t"
    start     := ← number 'v' "starting line number" (-greatest) 1
    step      := ← number 'i' "line number increment" (-greatest) 1
    format    := format
    delimiter := match (a.last? 'd').getD "\\:" with
      | d => if d.length = 1 then d ++ ":" else d
    joined    := (← number 'l' "line number of blank lines" 1 1).toNat
    renumbers := !a.has 'p' }

/-- Numbers lines. -/
def nl : Builtin := fun _ args => nlUsage.run args fun a => do
  match Numbering.ofArguments a with
  | .error message => nlUsage.refuse message
  | .ok n =>
    let (texts, failed) ← readInputs (plainWords "nl") a.rest
    finish "nl" (unlines (n.apply 1 n.start 0 (texts.flatMap fun t => linesOf t.2))) failed

end BoardConsole.Shell.Utility
