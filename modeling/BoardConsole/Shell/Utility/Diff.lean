import BoardConsole.Shell.Utility.Date
import BoardConsole.Shell.Utility.Diff.View
import BoardConsole.Shell.Utility.Paths

/-!
# Shell — Comparing files line by line

How the lines of one file become those of another, for two files or for all that two directories
hold.
-/

namespace BoardConsole.Shell.Utility

open Act Diff

def diffUsage : Usage :=
  { program := "diff", letters := "0123456789abBcC:dD:eEfF:hHiI:lL:nNpPqrsS:tTuU:vwW:x:X:yZ" ++
      "κ::υ::νρβολΛ:ΔΦτ:ηδ:α:ι:ω:φ:ψ:χ:σ:γ:ζ:ξμϕ::"
    misuse := 2, named := true
    names := [("binary", 'β'), ("brief", 'q'), ("changed-group-format", 'χ'), ("color", 'ϕ'),
      ("context", 'κ'), ("ed", 'e'), ("exclude", 'x'), ("exclude-from", 'X'), ("expand-tabs", 't'),
      ("forward-ed", 'f'), ("from-file", 'δ'), ("horizon-lines", 'Λ'), ("ifdef", 'D'),
      ("ignore-all-space", 'w'), ("ignore-blank-lines", 'B'), ("ignore-case", 'i'),
      ("ignore-file-name-case", 'ξ'), ("ignore-matching-lines", 'I'), ("ignore-space-change", 'b'),
      ("ignore-tab-expansion", 'E'), ("ignore-trailing-space", 'Z'), ("initial-tab", 'T'),
      ("label", 'L'), ("left-column", 'λ'), ("line-format", 'ζ'), ("minimal", 'd'),
      ("new-file", 'N'), ("new-group-format", 'ψ'), ("new-line-format", 'ω'),
      ("no-dereference", 'Φ'), ("no-ignore-file-name-case", 'μ'), ("normal", 'ν'),
      ("old-group-format", 'φ'), ("old-line-format", 'ι'), ("paginate", 'l'), ("rcs", 'n'),
      ("recursive", 'r'), ("report-identical-files", 's'), ("show-c-function", 'p'),
      ("show-function-line", 'F'), ("side-by-side", 'y'), ("speed-large-files", 'H'),
      ("starting-file", 'S'), ("strip-trailing-cr", 'ρ'), ("suppress-blank-empty", 'Δ'),
      ("suppress-common-lines", 'ο'), ("tabsize", 'τ'), ("text", 'a'), ("to-file", 'α'),
      ("unchanged-group-format", 'σ'), ("unchanged-line-format", 'γ'),
      ("unidirectional-new-file", 'P'), ("unified", 'υ'), ("width", 'W')] }

/-- How files are compared. -/
structure Comparing where
  view      : View
  /-- How many lines that are the same stay in the search before and behind it. -/
  margin    : Nat
  arguments : Arguments
  /-- The options as they were given. -/
  words     : List String
  /-- The form of a line in which it is compared. -/
  form      : String → String
  excluded  : List String

/-! ### Options -/

/-- The form that an option asks for. -/
def diffForm? : Char → Option Form
  | 'c' | 'C' | 'κ' => some .context
  | 'u' | 'U' | 'υ' => some .unified
  | 'e' => some .commands
  | 'f' => some .forward
  | 'n' => some .counted
  | 'y' => some .columns
  | 'ν' => some .plain
  | 'D' | 'ι' | 'ω' | 'γ' | 'ζ' | 'φ' | 'ψ' | 'σ' | 'χ' => some .merged
  | _   => none

/-- The form that options ask for; two forms are in conflict. -/
def formOf (a : Arguments) : Except String Form :=
  match (a.options.filterMap fun o => diffForm? o.1).eraseDups with
  | []     => .ok (if a.has 'p' then .context else .plain)
  | [form] => .ok form
  | _      => .error "conflicting output style options"

/-- The number of lines around changes, which is the greatest that is asked for. -/
def contextLines (a : Arguments) : Except String Nat := do
  let mut greatest := 0
  let mut exact := false
  for (letter, value) in a.options do
    if letter = 'C' || letter = 'U' || ((letter = 'κ' || letter = 'υ') && value != "") then
      match value.toNat? with
      | some n =>
        greatest := max greatest n
        exact := true
      | none   => throw ("invalid context length " ++ quoted value)
    else if letter = 'c' || letter = 'u' || letter = 'κ' || letter = 'υ' then
      greatest := max greatest 3
  let digits := (a.options.map (·.1)).filter Char.isDigit
  if digits.isEmpty then
    return if greatest = 0 && !exact && a.has 'p' then 3 else greatest
  let n := Arithmetic.valueOf 10 digits
  return if greatest < n || !exact then n else greatest

/-- The number of an option, which is not zero. -/
def positiveOf (a : Arguments) (letter : Char) (what : String) (usual : Nat) : Except String Nat :=
  match a.last? letter with
  | none   => .ok usual
  | some s =>
    match s.toNat? with
    | some n => if n = 0 then .error ("invalid " ++ what ++ " " ++ quoted s) else .ok n
    | none   => .error ("invalid " ++ what ++ " " ++ quoted s)

/-- The expression that matches where one of some does. -/
def anyOf (patterns : List String) : Except String (Option Regex) := do
  let parts ← patterns.mapM fun p =>
    (Regex.ofText {} p).mapError fun _ => p ++ ": Invalid regular expression"
  return match parts with
    | []            => none
    | first :: rest => some (rest.foldl .alt first)

/-- A blank of a line. -/
def isSpace (c : Char) : Bool := c = ' ' || ('\t' ≤ c && c ≤ '\r')

/-- How far blanks are left out of account. -/
structure Blanks where
  all      : Bool
  amount   : Bool
  trailing : Bool
  tabs     : Bool

def Blanks.ofArguments (a : Arguments) : Blanks :=
  let all := a.has 'w'
  let amount := !all && a.has 'b'
  ⟨all, amount, !all && !amount && a.has 'Z', !all && !amount && a.has 'E'⟩

/-- A line without its end, with its blanks as they count. -/
def Blanks.form (b : Blanks) (cs : List Char) : List Char :=
  if b.all then cs.filter (!isSpace ·)
  else if b.amount then
    let words := ((cs.reverse.dropWhile isSpace).reverse).foldl
      (fun out c =>
        if isSpace c then (if out.head? = some ' ' then out else ' ' :: out) else c :: out) []
    words.reverse
  else
    let cs := if b.tabs then (expanded 8 "" 0 cs).toList else cs
    if b.trailing then (cs.reverse.dropWhile isSpace).reverse else cs

/-- A line in the form in which it is compared. -/
def lineForm (a : Arguments) (exactEnd : Bool) (line : String) : String :=
  let b := Blanks.ofArguments a
  if !a.has 'i' && !b.all && !b.amount && !b.trailing && !b.tabs then
    if exactEnd || line.endsWith "\n" then line else line ++ "\n"
  else
    let cs := b.form (bareLine line).toList
    let cs := if a.has 'i' then cs.map Char.toLower else cs
    String.ofList cs ++ (if exactEnd && !line.endsWith "\n" then "" else "\n")

/-- The lines whose changes do not count: empty ones, and those that an expression matches. -/
def ignoredLines (a : Arguments) (r : Option Regex) : Option (String → Bool) :=
  if !a.has 'B' && r.isNone then none
  else some fun line =>
    let b := Blanks.ofArguments a
    let cs := (bareLine line).toList
    let isEmpty :=
      if b.all || b.amount || b.trailing then
        if cs.all isSpace then true else cs.isEmpty
      else cs.isEmpty
    (a.has 'B' && isEmpty) || r.any fun r => (r.find false cs).isSome

/-- The formats for lines and groups. -/
def lineFormats (a : Arguments) : Formats :=
  let usual := (a.last? 'ζ').getD "%l\n"
  ⟨(a.last? 'γ').getD usual, (a.last? 'ι').getD usual, (a.last? 'ω').getD usual, usual⟩

def groupFormats (a : Arguments) : Formats :=
  let (deleted, added, changed) := match a.last? 'D' with
    | none => ((a.last? 'φ').getD "%<", (a.last? 'ψ').getD "%>", none)
    | some name =>
      ("#ifndef " ++ name ++ "\n%<#endif /* ! " ++ name ++ " */\n",
        "#ifdef " ++ name ++ "\n%>#endif /* " ++ name ++ " */\n",
        some ("#ifndef " ++ name ++ "\n%<#else /* " ++ name ++ " */\n%>#endif /* " ++ name ++ " */\n"))
  ⟨(a.last? 'σ').getD "%=", deleted, added, (a.last? 'χ').getD (changed.getD (deleted ++ added))⟩

/-- The words of the options among arguments: what is left of them without the operands. -/
def optionWords (args operands : List String) : List String :=
  (operands.foldr (fun operand words => words.erase operand) args.reverse).reverse

/-- How arguments ask for files to be compared. -/
def comparingOf (args : List String) (a : Arguments) (excluded : List String) :
    Except String Comparing := do
  let form ← formOf a
  let context ← contextLines a
  let width ← positiveOf a 'W' "width" 130
  let tabSize ← positiveOf a 'τ' "tabsize" 8
  let margin ← match a.last? 'Λ' with
    | none   => pure 0
    | some s =>
      match s.toNat? with
      | some n => pure n
      | none   => throw ("invalid horizon length " ++ quoted s)
  let given := (a.options.filter (·.1 = 'F')).map (·.2)
  let heading ← anyOf (given ++ (if a.has 'p' then ["^[[:alpha:]$_]"] else []))
  let ignored ← anyOf ((a.options.filter (·.1 = 'I')).map (·.2))
  let b := Blanks.ofArguments a
  let exactEnd := form != .commands && form != .forward && !b.all && !b.amount && !b.trailing
  let context := if form = .context || form = .unified then context else 0
  return {
    view := {
      form, context, tabSize, heading, width
      tab       := a.has 'T'
      expands   := a.has 't'
      bare      := a.has 'Δ'
      ignored   := ignoredLines a ignored
      leftOnly  := a.has 'λ'
      onlyOther := a.has 'ο'
      lines     := lineFormats a
      groups    := groupFormats a }
    margin    := max margin context
    arguments := a
    words     := optionWords args a.rest
    form      := lineForm a exactEnd
    excluded }

/-! ### Names -/

/-- Whether a character in a word means something to a shell. -/
def meansMore (c : Char) : Bool :=
  c.toNat < 33 || "!\"$&'()*;<=>[^|?\\".toList.contains c || c = '\x60'

/-- A word as a shell reads it. -/
def shellWord (s : String) : String :=
  let cs := s.toList
  let special := cs.isEmpty || cs.any meansMore || cs.head? = some '#' || cs.head? = some '~'
  if special then "'" ++ s.replace "'" "'\\''" ++ "'" else s

/-- A name in a heading: in quotes if it holds a blank or a character that is not printed. -/
def headingName (s : String) : String :=
  let escape (c : Char) : String :=
    match [('\x07', 'a'), ('\x08', 'b'), ('\t', 't'), ('\n', 'n'), ('\x0b', 'v'), ('\x0c', 'f'),
        ('\r', 'r'), ('"', '"'), ('\\', '\\')].lookup c with
    | some letter => String.ofList ['\\', letter]
    | none =>
      if c.toNat < 32 then
        "\\" ++ String.ofList ((Nat.toDigits 8 (c.toNat + 512)).drop 1)
      else String.ofList [c]
  if s.toList.any fun c => c = ' ' || c = '"' || c = '\\' || c.toNat < 32 then
    "\"" ++ String.join (s.toList.map escape) ++ "\""
  else s

/-! ### Two texts -/

/-- One of two files. -/
structure Compared where
  name : String
  /-- What is there; nothing counts as an empty file. -/
  kind : Option (Kind × Path)
  /-- The time when it was changed. -/
  time : Int

/-- The title of a file: its label, or its name. -/
def Comparing.title (c : Comparing) (place : Nat) (s : Compared) : String :=
  (((c.arguments.options.filter (·.1 = 'L')).map (·.2))[place]?).getD s.name

/-- The heading of a form that names the files. -/
def Comparing.heading (c : Comparing) (zone : Zone) (x y : Compared) : String :=
  let (marks, format) :=
    if c.view.form = .unified then (("---", "+++"), "%Y-%m-%d %H:%M:%S.%N %z")
    else (("***", "---"), "%a %b %e %T %Y")
  let line (mark : String) (place : Nat) (s : Compared) : String :=
    match ((c.arguments.options.filter (·.1 = 'L')).map (·.2))[place]? with
    | some label => mark ++ " " ++ label ++ "\n"
    | none =>
      mark ++ " " ++ headingName s.name ++ "\t" ++ (Moment.ofNanos zone s.time).format format ++ "\n"
  if c.view.form = .unified || c.view.form = .context then line marks.1 0 x ++ line marks.2 1 y
  else ""

/-- The line that names the command for two files of directories. -/
def Comparing.command (c : Comparing) (x y : Compared) : String :=
  " ".intercalate ("diff" :: c.words.map shellWord ++
    [headingName (c.title 0 x), headingName (c.title 1 y)]) ++ "\n"

/-- A text whose lines end without a carriage return. -/
def withoutReturns (s : String) : String := s.replace "\r\n" "\n"

/-- Changes as they are shown. -/
def Comparing.shown (c : Comparing) (t : Texts) (deltas : List Difference.Delta) : String :=
  let v := c.view
  let hunks := v.hunks t deltas
  match v.form with
  | .plain    => String.join (hunks.map (v.plain t))
  | .commands => String.join (hunks.reverse.map (v.command t))
  | .forward  => String.join (hunks.map (v.forwardCommand t))
  | .counted  => String.join (hunks.map (v.countedCommand t))
  | .unified  => String.join ((v.headed t 0 none hunks).map fun (h, title) => v.unified t h title)
  | .context  => String.join ((v.headed t 0 none hunks).map fun (h, title) => v.contextual t h title)
  | .columns  => v.columns t 0 0 hunks
  | .merged   => v.merged t 0 0 hunks

/-- Whether something is shown where nothing differs. -/
def Comparing.showsSame (c : Comparing) : Bool :=
  (c.view.form = .columns && !c.view.onlyOther) ||
    (c.view.form = .merged && c.view.groups.kept != "" &&
      !(c.view.groups.kept = "%=" && c.view.lines.kept = ""))

/-- Whether options let files be compared as they are. -/
def Comparing.isExact (c : Comparing) : Bool :=
  !(['B', 'i', 'ρ', 'I', 'w', 'b', 'Z', 'E'].any c.arguments.has)

/-- How much of a file is looked at to find out whether it is text. -/
def lookedAt : Nat := 4096

/-- Compares two texts. -/
def Comparing.texts (c : Comparing) (nested : Bool) (x y : Compared) (left right : String) : Act Nat := do
  let a := c.arguments
  let differ : String := "Files " ++ c.title 0 x ++ " and " ++ c.title 1 y ++ " differ"
  let isBinary (s : String) : Bool := (s.toList.take lookedAt).contains '\x00'
  if !a.has 'a' && (isBinary left || isBinary right) then
    if left = right then return 0
    if a.has 'q' then
      printLine differ
      return 1
    printLine ("Binary f" ++ String.ofList (differ.toList.drop 1))
    return 2
  if a.has 'q' && c.isExact then
    if left != right then printLine differ
    return if left = right then 0 else 1
  let left := if a.has 'ρ' then withoutReturns left else left
  let right := if a.has 'ρ' then withoutReturns right else right
  let edits := c.view.form = .commands || c.view.form = .forward
  let lacksEnd (s : String) : Bool := s != "" && !s.endsWith "\n"
  let whole (s : String) : String := if edits && lacksEnd s then s ++ "\n" else s
  let leftLines := linesWithEnds (whole left)
  let rightLines := linesWithEnds (whole right)
  let deltas := Difference.changes (a.has 'd') c.margin c.form leftLines rightLines
  let t : Texts := ⟨leftLines.toArray, rightLines.toArray⟩
  let differs := deltas.any fun d => !c.view.isTrivial t d
  if a.has 'q' then
    if differs then printLine differ
    return if differs then 1 else 0
  if differs || c.showsSame then
    let text := c.shown t deltas
    let heading := (if nested then c.command x y else "") ++ c.heading (← currentZone) x y
    print ((if text != "" || c.view.form = .columns then heading else "") ++ text)
  if !edits then return if differs then 1 else 0
  let mut status := if differs then 1 else 0
  for (place, side, text) in [(0, x, left), (1, y, right)] do
    if lacksEnd text then
      diffUsage.complain (c.title place side ++ ": No newline at end of file\n")
      status := 2
  return status

/-! ### Files and directories -/

/-- The file of a name. -/
def comparedOf (name : String) : Act (Except String Compared) := do
  if name = "-" then return .ok ⟨name, some (.file, []), ← presentNanos⟩
  match ← look true name with
  | .error reason => return .error reason
  | .ok (kind, path) => return .ok ⟨name, some (kind, path), changedAt (← volume) path⟩

/-- A file that is not there. -/
def Compared.missing (name : String) : Compared := ⟨name, none, 0⟩

def Compared.isDirectory (s : Compared) : Bool := s.kind.any (·.1 = .directory)

/-- The text of a file. -/
def Compared.text (s : Compared) : Act (Except String String) := do
  match s.kind with
  | none   => return .ok ""
  | some _ => readInput s.name

/-- Names in order, without those that are left out. -/
def Comparing.namesOf (c : Comparing) (s : Compared) : Act (List String) := do
  match s.kind with
  | some (.directory, path) =>
    let names ← namesIn path
    let isLeftOut (name : String) : Bool :=
      c.excluded.any fun p => Pattern.isMatch (Pattern.ofString p) name.toList
    return names.filter fun name => !isLeftOut name
  | _ => return []

/-- Compares two files, or all that two directories hold. -/
def Comparing.sides (c : Comparing) (nested : Bool) : (fuel : Nat) → Compared → Compared → Act Nat
  | 0, _, _ => return 0
  | fuel + 1, x, y => do
    let a := c.arguments
    let isOne : Bool := match x.kind, y.kind with
      | some (_, p), some (_, q) => p = q && (x.name = "-") = (y.name = "-")
      | _, _                     => false
    if x.isDirectory && y.isDirectory then
      if isOne && !c.showsSame then return 0
      if nested && !a.has 'r' then
        printLine ("Common subdirectories: " ++ x.name ++ " and " ++ y.name)
        return 0
      inside fuel x y
    else if isOne && !c.showsSame then same x y 0
    else if x.kind.isNone && y.kind.isNone then return 0
    else if x.kind.isNone && y.isDirectory || y.kind.isNone && x.isDirectory then
      inside fuel x y
    else
      let kindOf (s : Compared) (other : Compared) : Option Kind := (s.kind.or other.kind).map (·.1)
      let odd (s other : Compared) : Bool := (kindOf s other).any (· != .file)
      if x.isDirectory || y.isDirectory || (nested && (odd x y || odd y x)) then
        let name (s : Compared) : Act String := do
          match s.kind with
          | none => return "regular empty file"
          | some (kind, path) => kindNameAt kind path
        printLine ("File " ++ c.title 0 x ++ " is a " ++ (← name x) ++ " while file " ++
          c.title 1 y ++ " is a " ++ (← name y))
        return 1
      match ← x.text, ← y.text with
      | .ok left, .ok right => same x y (← c.texts nested x y left right)
      | left, right =>
        for (s, found) in [(x, left), (y, right)] do
          match found with
          | .error reason => diffUsage.complain (s.name ++ ": " ++ reason)
          | .ok _         => pure ()
        return 2
where
  /-- Says that two files are the same, where that is asked for. -/
  same (x y : Compared) (status : Nat) : Act Nat := do
    if status = 0 && c.arguments.has 's' then
      printLine ("Files " ++ c.title 0 x ++ " and " ++ c.title 1 y ++ " are identical")
    return status
  /-- Compares what two directories hold. -/
  inside (fuel : Nat) (x y : Compared) : Act Nat := do
    let a := c.arguments
    let left ← c.namesOf x
    let right ← c.namesOf y
    let names := ((left ++ right).mergeSort (· ≤ ·)).eraseDups
    let start := if nested then "" else (a.last? 'S').getD ""
    let mut status := 0
    for name in names.filter (start ≤ ·) do
      let inLeft := left.contains name
      let inRight := right.contains name
      let counts := a.has 'N' || (a.has 'P' && inRight)
      if !(inLeft && inRight) && !counts then
        printLine ("Only in " ++ (if inLeft then x.name else y.name) ++ ": " ++ name)
        status := max status 1
      else
        let side (there : Bool) (directory : Compared) : Act (Except String Compared) := do
          let whole := below directory.name name
          if there then comparedOf whole else return .ok (.missing whole)
        match ← side inLeft x, ← side inRight y with
        | .ok p, .ok q =>
          if (p.kind.isNone && q.isDirectory || q.kind.isNone && p.isDirectory) && !a.has 'r' then
            printLine ("Only in " ++ (if inLeft then x.name else y.name) ++ ": " ++ name)
            status := max status 1
          else
            status := max status (← Comparing.sides c true fuel p q)
        | p, q =>
          for (whole, found) in [(below x.name name, p), (below y.name name, q)] do
            match found with
            | .error reason => diffUsage.complain (whole ++ ": " ++ reason)
            | .ok _         => pure ()
          status := 2
    return status

/-- Compares what two names lead to: a file with one of its name in a directory. -/
def Comparing.names (c : Comparing) (first second : String) : Act Nat := do
  let missing := PathFault.missing.reason
  let x ← comparedOf first
  let y ← comparedOf second
  let given (found : Except String Compared) (other : Except String Compared) (name : String)
      (counts : Bool) : Except String Compared :=
    match found, other with
    | .error reason, .ok _ =>
      if counts && reason = missing then .ok (.missing name) else .error reason
    | found, _ => found
  let p := given x y first (c.arguments.has 'N' || c.arguments.has 'P')
  let q := given y x second (c.arguments.has 'N')
  match p, q with
  | .ok p, .ok q =>
    if p.isDirectory = q.isDirectory || p.kind.isNone && q.isDirectory ||
        q.kind.isNone && p.isDirectory then
      return ← c.sides false greatestTreeDepth p q
    let (file, directory) := if p.isDirectory then (q, p) else (p, q)
    if file.name = "-" then
      diffUsage.complain "cannot compare '-' to a directory"
      return 2
    let name := below directory.name (lastComponent file.name)
    match ← comparedOf name with
    | .error reason =>
      diffUsage.complain (name ++ ": " ++ reason)
      return 2
    | .ok found =>
      if p.isDirectory then c.sides false greatestTreeDepth found q
      else c.sides false greatestTreeDepth p found
  | p, q =>
    for (name, found) in [(first, p), (second, q)] do
      match found with
      | .error reason => diffUsage.complain (name ++ ": " ++ reason)
      | .ok _         => pure ()
    return 2

/-- Compares files line by line. -/
def diff : Builtin := fun _ args => diffUsage.run args fun a => do
  let mut excluded := (a.options.filter (·.1 = 'x')).map (·.2)
  for (letter, name) in a.options do
    if letter = 'X' then
      match ← readInput name with
      | .ok text => excluded := excluded ++ linesOf text
      | .error reason =>
        diffUsage.complain (name ++ ": " ++ reason)
        return 2
  if 2 < (a.options.filter (·.1 = 'L')).length then
    diffUsage.complain "too many file label options"
    return 2
  match comparingOf args a excluded with
  | .error fault =>
    if fault.endsWith "expression" then
      diffUsage.complain fault
      return 2
    diffUsage.refuse fault
  | .ok c =>
    match a.last? 'δ', a.last? 'α', a.rest with
    | some first, none, rest =>
      let mut status := 0
      for name in rest do status := max status (← c.names first name)
      return status
    | none, some second, rest =>
      let mut status := 0
      for name in rest do status := max status (← c.names name second)
      return status
    | some _, some _, _ => diffUsage.refuse "--from-file and --to-file both specified"
    | none, none, [first, second] => c.names first second
    | none, none, [] | none, none, [_] =>
      let last := ((c.words ++ a.rest).getLast?).getD "diff"
      diffUsage.refuse ("missing operand after '" ++ last ++ "'")
    | none, none, _ :: _ :: extra => diffUsage.refuse ("extra operand " ++ quoted (extra.headD ""))

end BoardConsole.Shell.Utility
