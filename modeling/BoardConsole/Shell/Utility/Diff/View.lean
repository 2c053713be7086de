import BoardConsole.Shell.Bytes
import BoardConsole.Shell.Difference
import BoardConsole.Shell.Format
import BoardConsole.Shell.Regex

/-!
# Shell — Two texts compared

The forms in which two texts are shown against each other.
-/

namespace BoardConsole.Shell.Diff

open Difference

/-!
## Differences as they are shown

The forms in which the changes between two texts are shown: line by line, with the lines around them,
or as commands that make one text into the other.
-/

/-- The form in which differences are shown. -/
inductive Form where
  | plain
  | context
  | unified
  /-- Commands of an editor, the last change first. -/
  | commands
  /-- The same in the order of the text. -/
  | forward
  /-- Commands that count lines. -/
  | counted
  /-- Both texts side by side. -/
  | columns
  /-- One text with the lines of both, by formats. -/
  | merged
deriving DecidableEq, Repr

/-- Texts for lines that are the same, only in the first text, only in the second, or changed. -/
structure Formats where
  kept    : String
  deleted : String
  added   : String
  changed : String

/-- How differences are shown. -/
structure View where
  form      : Form
  /-- How many lines around a change are shown. -/
  context   : Nat
  /-- Whether a tab stands between the mark of a line and the line. -/
  tab       : Bool
  /-- Whether tabs are shown as blanks. -/
  expands   : Bool
  tabSize   : Nat
  /-- Whether a mark stands without a blank before an empty line. -/
  bare      : Bool
  /-- The lines that head the parts of a text. -/
  heading   : Option Regex
  /-- The lines whose changes do not count. -/
  ignored   : Option (String → Bool)
  /-- The width of columns, and what is left out of them. -/
  width     : Nat
  leftOnly  : Bool
  onlyOther : Bool
  lines     : Formats
  groups    : Formats

/-- Two texts as their lines, which have their ends. -/
structure Texts where
  left  : Array String
  right : Array String

/-- A line without its end. -/
def bareLine (line : String) : String :=
  if line.endsWith "\n" then String.ofList line.toList.dropLast else line

/-! ### Lines -/

/-- A text with blanks for its tabs. A mark stands again where the line begins anew. -/
def expanded (size : Nat) (mark : String) : (column : Nat) → List Char → String
  | _, [] => ""
  | column, c :: cs =>
    if c = '\t' then
      let n := size - column % size
      repeated n ' ' ++ expanded size mark (column + n) cs
    else if c = '\r' then
      let again := if cs.isEmpty || cs.head? = some '\n' then "" else mark
      "\r" ++ again ++ expanded size mark 0 cs
    else if c = '\x08' then
      if column = 0 then expanded size mark 0 cs else "\x08" ++ expanded size mark (column - 1) cs
    else
      let width := if ' ' ≤ c && c ≤ '~' then 1 else 0
      String.ofList [c] ++ expanded size mark (column + width) cs

/-- A line as it is, or with blanks for its tabs. -/
def View.content (v : View) (mark line : String) : String :=
  if v.expands then expanded v.tabSize mark 0 line.toList else line

/-- A line that lacks its end, with a line that says so. -/
def completed (line : String) : String :=
  if line.endsWith "\n" then line else line ++ "\n\\ No newline at end of file\n"

/-- A line behind a mark that a blank follows. -/
def View.marked (v : View) (mark line : String) : String :=
  let mark :=
    if v.bare && line.startsWith "\n" then (if mark = " " then "" else mark)
    else mark ++ (if v.tab then "\t" else " ")
  mark ++ completed (v.content mark line)

/-- A line behind a mark that is one character. -/
def View.joined (v : View) (mark line : String) : String :=
  let isBare := v.bare && line.startsWith "\n"
  let mark :=
    if mark = " " then (if isBare then "" else if v.tab then "\t" else " ")
    else mark ++ (if v.tab && !isBare then "\t" else "")
  mark ++ completed (v.content "" line)

/-! ### Hunks -/

/-- Changes that are shown together, and the lines of both texts that they reach over. -/
structure Hunk where
  left     : Nat
  leftEnd  : Nat
  right    : Nat
  rightEnd : Nat
  deletes  : Bool
  adds     : Bool
  changes  : List Delta

/-- The hunk of changes. -/
def Hunk.ofChanges (changes : List Delta) : Hunk :=
  let last : Delta := changes.getLastD ⟨0, 0, 0, 0⟩
  let first : Delta := changes.headD last
  ⟨first.left, last.leftEnd, first.right, last.rightEnd, changes.any (0 < ·.deleted),
    changes.any (0 < ·.added), changes⟩

/-- The letter for what a hunk does. -/
def Hunk.letter (h : Hunk) : String :=
  if !h.deletes then "a" else if !h.adds then "d" else "c"

/-- Whether a change does not count. -/
def View.isTrivial (v : View) (t : Texts) (c : Delta) : Bool :=
  match v.ignored with
  | none => false
  | some ignores =>
    (t.left.extract c.left c.leftEnd).all ignores && (t.right.extract c.right c.rightEnd).all ignores

/-- The hunks of changes that count, each a change where no lines around are shown. -/
def View.hunks (v : View) (t : Texts) (changes : List Delta) : List Hunk :=
  let groups :=
    if v.form = .context || v.form = .unified then
      changes.splitBy fun a b =>
        let near := if v.isTrivial t a || v.isTrivial t b then v.context else 2 * v.context + 1
        b.left - a.leftEnd < near
    else changes.map fun c => [c]
  (groups.filter fun g => !g.all (v.isTrivial t)).map Hunk.ofChanges

/-- The numbers of lines, of which the first is left out where there are no more. -/
def spanOf (separator : String) (first stop : Nat) : String :=
  if first + 1 < stop then toString (first + 1) ++ separator ++ toString stop else toString stop

/-! ### Plain forms -/

/-- A hunk as its lines. -/
def View.plain (v : View) (t : Texts) (h : Hunk) : String :=
  let lines (mark : String) (lines : Array String) : String :=
    String.join (lines.toList.map (v.marked mark))
  spanOf "," h.left h.leftEnd ++ h.letter ++ spanOf "," h.right h.rightEnd ++ "\n" ++
    lines "<" (t.left.extract h.left h.leftEnd) ++ (if h.letter = "c" then "---\n" else "") ++
    lines ">" (t.right.extract h.right h.rightEnd)

/-- Lines that an editor adds. A line that is a dot would end them: it is added with a second dot,
which is taken away again. -/
def View.typed (v : View) : (adding : Bool) → List String → String
  | adding, [] => if adding then ".\n" else ""
  | adding, line :: rest =>
    let start := if adding then "" else "a\n"
    if line = ".\n" then start ++ "..\n.\ns/.//\n" ++ v.typed false rest
    else start ++ v.content "" line ++ v.typed true rest

/-- A hunk as a command of an editor. -/
def View.command (v : View) (t : Texts) (h : Hunk) : String :=
  spanOf "," h.left h.leftEnd ++ h.letter ++ "\n" ++
    (if h.adds then v.typed true (t.right.extract h.right h.rightEnd).toList else "")

/-- A hunk as a command with its letter first. -/
def View.forwardCommand (v : View) (t : Texts) (h : Hunk) : String :=
  h.letter ++ spanOf " " h.left h.leftEnd ++ "\n" ++
    (if h.adds then
      String.join ((t.right.extract h.right h.rightEnd).toList.map (v.content "")) ++ ".\n"
    else "")

/-- A hunk as commands that count lines. -/
def View.countedCommand (v : View) (t : Texts) (h : Hunk) : String :=
  let shown (letter : String) (place count : Nat) : String :=
    letter ++ toString place ++ " " ++ toString count ++ "\n"
  (if h.deletes then shown "d" (h.left + 1) (h.leftEnd - h.left) else "") ++
    (if h.adds then
      shown "a" h.leftEnd (h.rightEnd - h.right) ++
        String.join ((t.right.extract h.right h.rightEnd).toList.map (v.content ""))
    else "")

/-! ### Forms with the lines around -/

/-- A hunk with the lines around it. -/
def View.around (v : View) (t : Texts) (h : Hunk) : Hunk :=
  { h with
    left     := h.left - v.context
    right    := h.right - v.context
    leftEnd  := min (h.leftEnd + v.context) t.left.size
    rightEnd := min (h.rightEnd + v.context) t.right.size }

/-- The last line before some line, down to another, that heads a part. -/
def lastHeading (r : Regex) (lines : Array String) (least : Nat) : Nat → Option Nat
  | 0     => none
  | n + 1 =>
    if n < least then none
    else if (r.find false (bareLine (lines.getD n "")).toList).isSome then some n
    else lastHeading r lines least n

/-- The hunks with the lines around, and the heading of the part in which each lies. -/
def View.headed (v : View) (t : Texts) : (searched : Nat) → (last : Option Nat) → List Hunk →
    List (Hunk × String)
  | _, _, [] => []
  | searched, last, h :: rest =>
    let h := v.around t h
    match v.heading with
    | none => (h, "") :: v.headed t searched last rest
    | some r =>
      let last := (lastHeading r t.left searched h.left).or last
      let title := match last with
        | none   => ""
        | some n =>
          let blank (c : Char) : Bool := c = ' ' || ('\t' ≤ c && c ≤ '\r')
          let text := ((bareLine (t.left.getD n "")).toList.dropWhile blank).take 40
          " " ++ String.ofList (text.reverse.dropWhile blank).reverse
      (h, title) :: v.headed t h.left last rest

/-- The lines of a unified hunk from one on. -/
def View.unifiedLines (v : View) (t : Texts) (stop : Nat) : (line : Nat) → List Delta → String
  | line, [] => String.join ((t.left.extract line stop).toList.map (v.joined " "))
  | line, c :: rest =>
    String.join ((t.left.extract line c.left).toList.map (v.joined " ")) ++
      String.join ((t.left.extract c.left c.leftEnd).toList.map (v.joined "-")) ++
      String.join ((t.right.extract c.right c.rightEnd).toList.map (v.joined "+")) ++
      v.unifiedLines t stop c.leftEnd rest

/-- A unified hunk. -/
def View.unified (v : View) (t : Texts) (h : Hunk) (title : String) : String :=
  let span (first stop : Nat) : String :=
    if stop = first then toString stop ++ ",0"
    else if stop = first + 1 then toString stop
    else toString (first + 1) ++ "," ++ toString (stop - first)
  "@@ -" ++ span h.left h.leftEnd ++ " +" ++ span h.right h.rightEnd ++ " @@" ++ title ++ "\n" ++
    v.unifiedLines t h.leftEnd h.left h.changes

/-- The lines of one text in a hunk: those of each change have its mark. The changes are given by
their first and last lines. -/
def View.contextLines (v : View) (lines : Array String) (stop : Nat) : (line : Nat) →
    List (Nat × Nat × String) → String
  | line, [] => String.join ((lines.extract line stop).toList.map (v.marked " "))
  | line, (first, last, mark) :: rest =>
    String.join ((lines.extract line first).toList.map (v.marked " ")) ++
      String.join ((lines.extract first last).toList.map (v.marked mark)) ++
      v.contextLines lines stop last rest

/-- A hunk with the lines of both texts one after the other. -/
def View.contextual (v : View) (t : Texts) (h : Hunk) (title : String) : String :=
  let deleted := h.changes.map fun c => (c.left, c.leftEnd, if 0 < c.added then "!" else "-")
  let added := h.changes.map fun c => (c.right, c.rightEnd, if 0 < c.deleted then "!" else "+")
  "***************" ++ title ++ "\n*** " ++ spanOf "," h.left h.leftEnd ++ " ****\n" ++
    (if h.deletes then v.contextLines t.left h.leftEnd h.left deleted else "") ++
    "--- " ++ spanOf "," h.right h.rightEnd ++ " ----\n" ++
    (if h.adds then v.contextLines t.right h.rightEnd h.right added else "")

/-!
## Texts side by side

Two texts in two columns, with a mark between them for each line that is not in both. The columns
are as wide as the line allows, and the second begins at a tab stop.
-/

/-- The least space between the columns. -/
def gutter : Nat := 3

/-- Where columns lie: the width of one, and the place where the second begins. -/
structure Columns where
  half   : Nat
  second : Nat

/-- The columns of a view. -/
def View.columnsOf (v : View) : Columns :=
  let unit := if v.expands then 1 else v.tabSize
  let both := unit + gutter
  let place := v.width / 2 + both / 2 + (if v.width % 2 = 1 && both % 2 = 1 then 1 else 0)
  let place := place - place % unit
  let half := min (place - gutter) (v.width - place)
  ⟨half, if half = 0 then v.width else place⟩

/-- The tabs that lead from one place to another, and the place where they end. -/
def tabsTo (size stop : Nat) : (fuel : Nat) → (place : Nat) → String × Nat
  | 0, place => ("", place)
  | fuel + 1, place =>
    let next := place + size - place % size
    if next ≤ stop then
      let (text, last) := tabsTo size stop fuel next
      ("\t" ++ text, last)
    else ("", place)

/-- The space from one place to another. -/
def View.space (v : View) (start stop : Nat) : String :=
  let (tabs, place) := if v.expands then ("", start) else tabsTo v.tabSize stop (stop + 1) start
  tabs ++ repeated (stop - place) ' '

/-- A line in a column, and the place where it ends. Of the places, one is that in the line, and the
other that in the column, where what is too long is left out. -/
def View.half (v : View) (indent bound : Nat) : (own shown : Nat) → List Char → String × Nat
  | _, shown, [] => ("", shown)
  | own, shown, c :: cs =>
    if c = '\n' then ("", shown)
    else if c = '\t' then
      let n := v.tabSize - own % v.tabSize
      let stop := shown + n
      let (text, shown) :=
        if own != shown then ("", shown)
        else if v.expands then
          (repeated (min stop bound - shown) ' ', max shown (min stop bound))
        else if stop < bound then ("\t", stop)
        else ("", shown)
      let (rest, last) := v.half indent bound (own + n) shown cs
      (text ++ rest, last)
    else if c = '\r' then
      let (rest, last) := v.half indent bound 0 0 cs
      ("\r" ++ v.space 0 indent ++ rest, last)
    else if c = '\x08' then
      if own = 0 || bound ≤ own - 1 then v.half indent bound (own - 1) shown cs
      else
        let text := if shown ≤ own - 1 then repeated (own - 1 - shown) ' ' else "\x08"
        let (rest, last) := v.half indent bound (own - 1) (own - 1) cs
        (text ++ rest, last)
    else if ' ' ≤ c && c ≤ '~' then
      if own < bound then
        let (rest, last) := v.half indent bound (own + 1) (own + 1) cs
        (String.ofList [c] ++ rest, last)
      else v.half indent bound (own + 1) shown cs
    else
      let (rest, last) := v.half indent bound own shown cs
      ((if own < bound then String.ofList [c] else "") ++ rest, last)

/-- A line of the columns. -/
def View.pair (v : View) (mark : Char) (left right : Option String) : String :=
  let c := v.columnsOf
  let ended (line : Option String) : Bool := line.any (·.endsWith "\n")
  let (first, place) := match left with
    | some line => v.half 0 c.half 0 0 line.toList
    | none      => ("", 0)
  let mark :=
    if mark = '|' && ended left != ended right then (if ended left then '/' else '\\') else mark
  let middle := (c.half + c.second - 1) / 2
  let (sign, place) :=
    if mark = ' ' then ("", place)
    else (v.space place middle ++ String.ofList [mark], middle + 1)
  let second := match right with
    | some line =>
      if line.startsWith "\n" then ""
      else v.space place c.second ++ (v.half c.second c.half 0 0 line.toList).1
    | none => ""
  first ++ sign ++ second ++ (if ended left || ended right then "\n" else "")

/-- Lines that both texts have. -/
def View.common (v : View) (t : Texts) (left leftEnd right rightEnd : Nat) : String :=
  let first := (t.left.extract left leftEnd).toList
  let second := (t.right.extract right rightEnd).toList
  if v.onlyOther then ""
  else if v.leftOnly then String.join (first.map fun line => v.pair '(' (some line) none)
  else
    let both := first.zip second
    String.join (both.map fun (x, y) => v.pair ' ' (some x) (some y)) ++
      String.join ((second.drop both.length).map fun line => v.pair ')' none (some line)) ++
      String.join ((first.drop both.length).map fun line => v.pair '(' (some line) none)

/-- The columns from two lines on. -/
def View.columns (v : View) (t : Texts) : (left right : Nat) → List Hunk → String
  | left, right, [] => v.common t left t.left.size right t.right.size
  | left, right, h :: rest =>
    let first := (t.left.extract h.left h.leftEnd).toList
    let second := (t.right.extract h.right h.rightEnd).toList
    let both := first.zip second
    v.common t left h.left right h.right ++
      String.join (both.map fun (x, y) => v.pair '|' (some x) (some y)) ++
      String.join ((second.drop both.length).map fun line => v.pair '>' none (some line)) ++
      String.join ((first.drop both.length).map fun line => v.pair '<' (some line) none) ++
      v.columns t h.leftEnd h.rightEnd rest

/-!
## Texts merged by formats

One text that holds the lines of two. Lines that are the same, lines of one text only and lines that
were changed have formats of their own, and so has each line in them.
-/

/-- A group of lines: from one of each text on, up to another. -/
structure Group where
  left     : Nat
  leftEnd  : Nat
  right    : Nat
  rightEnd : Nat

/-- What a letter says of a group, a small one of the first text, a capital one of the second. -/
def Group.value? (g : Group) (c : Char) : Option Nat :=
  let (first, stop) := if c.isUpper then (g.right, g.rightEnd) else (g.left, g.leftEnd)
  match c.toLower with
  | 'e' => some first
  | 'f' => some (first + 1)
  | 'l' => some stop
  | 'm' => some (stop + 1)
  | 'n' => some (stop - first)
  | _   => none

/-- The text of a directive for a character or a number, and what follows it. -/
def directive? (value? : Char → Option Nat) (cs : List Char) : Option (String × List Char) :=
  let flags := cs.takeWhile fun c => c == '-' || c == '\''
  let cs := cs.drop flags.length
  let zero := cs.head? == some '0'
  let width := cs.takeWhile Char.isDigit
  let cs := cs.drop width.length
  let (precision, cs) := match cs with
    | '.' :: rest =>
      let digits := rest.takeWhile Char.isDigit
      (some (Arithmetic.valueOf 10 digits), rest.drop digits.length)
    | _ => (none, cs)
  let layout : Format.Layout :=
    ⟨flags.contains '-', false, false, false, zero, Arithmetic.valueOf 10 width, precision⟩
  match cs with
  | 'c' :: '\'' :: '\\' :: rest =>
    let digits := rest.takeWhile Format.isOctal
    match digits, rest.drop digits.length with
    | _ :: _, '\'' :: after => some (layout.fill (String.ofList [Format.octal digits]), after)
    | _, _                  => none
  | 'c' :: '\'' :: c :: '\'' :: after => some (layout.fill (String.ofList [c]), after)
  | 'd' :: letter :: after => (value? letter).map fun n => (layout.signed n, after)
  | c :: letter :: after =>
    if c = 'o' || c = 'x' || c = 'X' then (value? letter).map fun n => (layout.unsigned c n, after)
    else none
  | _ => none

/-- A line by its format. -/
def View.lineBy (v : View) (number : Nat) (line : String) : (fuel : Nat) → List Char → String
  | 0, _ | _, [] => ""
  | fuel + 1, '%' :: cs =>
    match cs with
    | '%' :: rest => "%" ++ v.lineBy number line fuel rest
    | 'l' :: rest => v.content "" (bareLine line) ++ v.lineBy number line fuel rest
    | 'L' :: rest => v.content "" line ++ v.lineBy number line fuel rest
    | _ =>
      match directive? (fun c => if c = 'n' then some number else none) cs with
      | some (text, rest) => text ++ v.lineBy number line fuel rest
      | none              => "%" ++ v.lineBy number line fuel cs
  | fuel + 1, c :: cs => String.ofList [c] ++ v.lineBy number line fuel cs

/-- Lines by a format. -/
def View.linesBy (v : View) (lines : Array String) (format : String) (first stop : Nat) : String :=
  String.join (((lines.extract first stop).toList.zipIdx (first + 1)).map fun (line, n) =>
    v.lineBy n line (format.length + 1) format.toList)

/-- A number or the value of a letter, and what follows it. -/
def Group.operand? (g : Group) (cs : List Char) : Option (Nat × List Char) :=
  let digits := cs.takeWhile Char.isDigit
  if !digits.isEmpty then some (Arithmetic.valueOf 10 digits, cs.drop digits.length)
  else
    match cs with
    | []        => none
    | c :: rest => (g.value? c).map (·, rest)

/-- The two numbers that a condition compares, and what follows them. -/
def Group.condition? (g : Group) (cs : List Char) : Option (Bool × List Char) :=
  match g.operand? cs with
  | some (x, '=' :: rest) =>
    match g.operand? rest with
    | some (y, '?' :: after) => some (x = y, after)
    | _                      => none
  | _ => none

/-- A group by its format up to a character, and what is left of the format from there on. -/
def View.groupBy (v : View) (t : Texts) (g : Group) : (fuel : Nat) → (stop : Option Char) →
    List Char → String × List Char
  | 0, _, cs => ("", cs)
  | _, _, [] => ("", [])
  | fuel + 1, stop, c :: cs =>
    let then_ (text : String) (rest : List Char) : String × List Char :=
      let (more, rest) := v.groupBy t g fuel stop rest
      (text ++ more, rest)
    if stop = some c then ("", c :: cs)
    else if c != '%' then then_ (String.ofList [c]) cs
    else
      match cs with
      | '%' :: rest => then_ "%" rest
      | '<' :: rest => then_ (v.linesBy t.left v.lines.deleted g.left g.leftEnd) rest
      | '=' :: rest => then_ (v.linesBy t.left v.lines.kept g.left g.leftEnd) rest
      | '>' :: rest => then_ (v.linesBy t.right v.lines.added g.right g.rightEnd) rest
      | '(' :: rest =>
        match g.condition? rest with
        | none => then_ "%" cs
        | some (holds, rest) =>
          let (first, rest) := v.groupBy t g fuel (some ':') rest
          match rest with
          | [] => (if holds then first else "", [])
          | _ :: rest =>
            let (second, rest) := v.groupBy t g fuel (some ')') rest
            then_ (if holds then first else second) (rest.drop 1)
      | _ =>
        match directive? g.value? cs with
        | some (text, rest) => then_ text rest
        | none              => then_ "%" cs

/-- A group by a format. -/
def View.group (v : View) (t : Texts) (format : String) (g : Group) : String :=
  (v.groupBy t g (format.length + 1) none format.toList).1

/-- The merged text from two lines on. -/
def View.merged (v : View) (t : Texts) : (left right : Nat) → List Hunk → String
  | left, right, [] =>
    if left < t.left.size || right < t.right.size then
      v.group t v.groups.kept ⟨left, t.left.size, right, t.right.size⟩
    else ""
  | left, right, h :: rest =>
    let format := if !h.adds then v.groups.deleted else if !h.deletes then v.groups.added
      else v.groups.changed
    (if left < h.left || right < h.right then v.group t v.groups.kept ⟨left, h.left, right, h.right⟩
      else "") ++
      v.group t format ⟨h.left, h.leftEnd, h.right, h.rightEnd⟩ ++
      v.merged t h.leftEnd h.rightEnd rest

end BoardConsole.Shell.Diff
