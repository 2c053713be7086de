import BoardConsole.Shell.Utility.Text

/-!
# Shell — Printed pages

The layout of pages, and inputs as they are printed on them.
-/

namespace BoardConsole.Shell.Utility

/-!
## Layout of pages

What `pr` is told about pages: how long and wide they are, how many columns stand side by side, what
separates these, and which marks lines get.
-/

def prUsage : Usage :=
  { program := "pr", letters := "0123456789D:FJN:S::Tabcde::fh:i::l:mn::o:rs::tvw:W:π:κ:", misuse := 1
    names := [("pages", 'π'), ("columns", 'κ'), ("across", 'a'), ("show-control-chars", 'c'),
      ("double-space", 'd'), ("date-format", 'D'), ("expand-tabs", 'e'), ("form-feed", 'f'),
      ("header", 'h'), ("output-tabs", 'i'), ("join-lines", 'J'), ("length", 'l'), ("merge", 'm'),
      ("number-lines", 'n'), ("first-line-number", 'N'), ("indent", 'o'), ("no-file-warnings", 'r'),
      ("separator", 's'), ("sep-string", 'S'), ("omit-header", 't'), ("omit-pagination", 'T'),
      ("show-nonprinting", 'v'), ("width", 'w'), ("page-width", 'W')] }

/-- Where columns take their lines from. -/
inductive ColumnFlow where
  /-- From one input, each column below the other. -/
  | down
  /-- From one input, each line in the next column. -/
  | across
  /-- From an input of its own for each. -/
  | merged
deriving DecidableEq

/-- How pages are laid out. -/
structure PageLayout where
  flow        : ColumnFlow := .down
  columns     : Nat := 1
  /-- The lines of a page, all and those for text. -/
  length      : Nat := 66
  body        : Nat := 56
  /-- The characters of a line, and those of each column. -/
  width       : Nat := 72
  columnWidth : Nat := 72
  margin      : Nat := 0
  /-- Whether pages have a header and a footer. -/
  headed      : Bool := true
  /-- Whether form feeds of an input are printed too. -/
  keepsFeeds  : Bool := false
  /-- Whether pages end with a form feed. -/
  feeds       : Bool := false
  doubled     : Bool := false
  /-- Whether lines are cut that are longer than their column. -/
  cuts        : Bool := false
  joins       : Bool := false
  /-- What separates columns. -/
  separates   : Bool := false
  separator   : String := ""
  /-- The character that stands for a tab in the input, and how far tabs are apart. -/
  inputTab    : Char × Nat := ('\t', 8)
  expands     : Bool := false
  /-- The character that blanks become in the output, and how far tabs are apart. -/
  outputTab   : Char × Nat := ('\t', 8)
  tabs        : Bool := false
  /-- The character behind the number of a line, and the digits of the number. -/
  numbered    : Bool := false
  numberMark  : Char × Nat := ('\t', 5)
  numberWidth : Nat := 0
  /-- How characters that are not printed are shown. -/
  escapes     : Bool := false
  carets      : Bool := false
  header      : Option String := none
  dateFormat  : String := "%Y-%m-%d %H:%M"
  first       : Nat := 1
  last        : Option Nat := none
  /-- The number of the first line, and whether lines of pages that are left out count. -/
  firstLine   : Int := 1
  countsAll   : Bool := true
  /-- Whether nothing is said about inputs that cannot be read. -/
  lenient     : Bool := false

/-- The lines of a header, and of a footer. -/
def headerLines : Nat := 5
def footerLines : Nat := 5

/-- How far the next tab is away. -/
def tabGap (every place : Int) : Int := every - place % every

/-! ### Arguments -/

/-- Why arguments are refused: with a hint about the usage, or without one. -/
inductive PageFault where
  | plain (message : String)
  | usage (message : String)

/-- A number that an option needs. -/
def pageNumber (what : String) (least : Int) (s : String) : Except PageFault Int :=
  let refused (why : String) : Except PageFault Int := .error (.plain (what ++ ": " ++ cited s ++ why))
  match Arithmetic.integer? 10 s with
  | none => refused ""
  | some n =>
    if n < least || n > 2147483647 then
      refused (": " ++ (if n < Nat.pow 2 30 then "Numerical result out of range"
        else "Value too large for defined data type"))
    else .ok n

/-- A character and a number, as far as a text has them. -/
def charAndNumber (letter : Char) (usual : Char × Nat) (s : String) : Except PageFault (Char × Nat) :=
  let (c, digits) := match s.toList with
    | c :: cs => if c.isDigit then (usual.1, c :: cs) else (c, cs)
    | []      => (usual.1, [])
  if digits.isEmpty then .ok (c, usual.2)
  else
    let n := Arithmetic.valueOf 10 digits
    if digits.all Char.isDigit && n != 0 && n < Nat.pow 2 31 then .ok (c, n)
    else
      .error (.usage ("'-" ++ String.ofList [letter] ++
        "' extra characters or invalid number in the argument: " ++ cited (String.ofList digits) ++
        (if digits.all Char.isDigit && n != 0 then ": Value too large for defined data type" else "")))

/-- The first page and the last one that a text names. -/
def pageRange? (s : String) : Option (Nat × Option Nat) :=
  let number? (s : String) : Option Nat :=
    if s != "" && s.toList.all Char.isDigit then s.toNat? else none
  match s.splitOn ":" with
  | [a]    => (number? a).bind fun n => if n = 0 then none else some (n, none)
  | [a, b] =>
    match number? a, number? b with
    | some n, some m => if n = 0 || m < n then none else some (n, some m)
    | _, _           => none
  | _ => none

/-- What the options say, before it is brought together. -/
structure PageOptions where
  layout  : PageLayout := {}
  /-- Whether the number of columns is given. -/
  columns : Option Nat := none
  /-- Whether there are options of an older kind for the separator and the width, with no newer ones
  behind them. -/
  oldSeparator : Bool := false
  oldWidth     : Bool := false

/-- The options with one more. -/
def PageOptions.add (o : PageOptions) (letter : Char) (value : String) : Except PageFault PageOptions := do
  let l := o.layout
  let put (l : PageLayout) : Except PageFault PageOptions := .ok { o with layout := l }
  match letter with
  | 'a' => put { l with flow := if l.flow = .merged then .merged else .across }
  | 'm' => put { l with flow := .merged }
  | 'c' => put { l with carets := true }
  | 'd' => put { l with doubled := true }
  | 'D' => put { l with dateFormat := value }
  | 'e' => put { l with expands := true, inputTab := ← charAndNumber 'e' l.inputTab value }
  | 'f' | 'F' => put { l with feeds := true }
  | 'h' => put { l with header := some value }
  | 'i' => put { l with tabs := true, outputTab := ← charAndNumber 'i' l.outputTab value }
  | 'J' => put { l with joins := true }
  | 'l' => put { l with length := (← pageNumber "'-l PAGE_LENGTH' invalid number of lines" 1 value).toNat }
  | 'n' => put { l with numbered := true, numberMark := ← charAndNumber 'n' l.numberMark value }
  | 'N' =>
    let n ← pageNumber "'-N NUMBER' invalid starting line number" (-2147483648) value
    put { l with firstLine := n, countsAll := false }
  | 'o' => put { l with margin := (← pageNumber "'-o MARGIN' invalid line offset" 0 value).toNat }
  | 'r' => put { l with lenient := true }
  | 's' =>
    return { o with
      oldSeparator := true
      layout := if l.separates || value = "" then l else { l with separator := value } }
  | 'S' =>
    return { o with oldSeparator := false, layout := { l with separates := true, separator := value } }
  | 't' => put { l with headed := false, keepsFeeds := true }
  | 'T' => put { l with headed := false, keepsFeeds := false }
  | 'v' => put { l with escapes := true }
  | 'w' =>
    let n ← pageNumber "'-w PAGE_WIDTH' invalid number of characters" 1 value
    return { o with
      oldWidth := true, layout := if l.cuts then l else { l with width := n.toNat } }
  | 'W' =>
    let n ← pageNumber "'-W PAGE_WIDTH' invalid number of characters" 1 value
    return { o with oldWidth := false, layout := { l with cuts := true, width := n.toNat } }
  | 'π' =>
    match pageRange? value with
    | some (first, last) => put { l with first, last }
    | none =>
      let digits := value.toList.takeWhile Char.isDigit
      throw (.plain ((if digits.isEmpty then "invalid --pages argument " else "invalid page range ") ++
        cited value))
  | 'κ' =>
    let n ← pageNumber "invalid number of columns" 1 value
    return { o with columns := some n.toNat }
  | _ => return o

/-- The options with digits in front of others as the number of columns. -/
def withColumnOptions (options : List (Char × String)) : List (Char × String) :=
  let groups := options.splitBy fun a b => a.1.isDigit = b.1.isDigit
  groups.flatMap fun group =>
    match group with
    | (c, _) :: _ => if c.isDigit then [('κ', String.ofList (group.map (·.1)))] else group
    | []          => []

/-- What the options of older kinds mean. -/
def PageOptions.translated (o : PageOptions) : PageLayout :=
  let l := o.layout
  let several := l.flow = .merged || o.columns.isSome
  if o.oldWidth then
    if several then { l with cuts := true, separates := l.separates || o.oldSeparator }
    else { l with joins := true }
  else if o.oldSeparator && !l.separates && several then
    if l.cuts then { l with separates := true }
    else { l with joins := true, separates := l.separator != "" }
  else l

/-- The layout for a number of inputs. -/
def PageLayout.for (l : PageLayout) (inputs : Nat) : Except PageFault PageLayout := do
  let text : Int := (l.length : Int) - headerLines - footerLines
  let l := if text ≤ 0 then { l with headed := false, keepsFeeds := true } else l
  let body := if l.headed then text.toNat else l.length
  let l := { l with body := if l.doubled then max 1 (body / 2) else body }
  let l := if l.flow = .merged && inputs = 0 then { l with flow := .across, columns := 1 } else l
  let l := if l.flow = .merged then { l with columns := inputs } else l
  let l :=
    if l.columns > 1 then
      let l :=
        if !l.separates then { l with separates := true, separator := if l.joins then "\t" else " " }
        else if !l.joins && l.separator = "\t" then { l with separator := " " }
        else l
      { l with cuts := true, expands := l.expands || l.separator != "\t", tabs := true }
    else if l.flow = .down then { l with flow := .across }
    else l
  let l := if l.joins then { l with cuts := false } else l
  let (mark, digits) := l.numberMark
  let l :=
    if l.numbered then
      { l with numberWidth := if mark = '\t' then digits + (tabGap 8 digits).toNat else digits + 1 }
    else l
  let taken := (if l.flow = .merged then l.numberWidth else 0) + (l.columns - 1) * l.separator.length
  let columnWidth := (l.width - taken) / l.columns
  if columnWidth < 1 then throw (.plain "page width too narrow")
  return { l with columnWidth }

/-- The layout that the arguments ask for, and the names of the inputs. -/
def PageLayout.ofArguments (a : Arguments) : Except PageFault (PageLayout × List String) := do
  let isRange (s : String) : Bool := s.startsWith "+" && (pageRange? (s.drop 1).toString).isSome
  let ranges := (a.rest.filter isRange).map fun s => ('π', (s.drop 1).toString)
  let options := withColumnOptions a.options ++ ranges
  let o ← options.foldlM (fun (o : PageOptions) (letter, value) => o.add letter value) {}
  let l := { o.translated with columns := o.columns.getD 1 }
  if l.flow = .merged && o.columns.isSome then
    throw (.plain "cannot specify number of columns when printing in parallel")
  if l.flow = .merged && a.has 'a' then
    throw (.plain "cannot specify both printing across and printing in parallel")
  return (l, a.rest.filter (!isRange ·))

/-!
## Pages being printed

A page is printed line by line, and each line column by column. Blanks are held back until something
is printed behind them: they may become tabs, and at the end of a line they are not needed. Columns
that stand below each other are filled before the page is printed.
-/

/-- What is known about the input of a column. -/
inductive ColumnStatus where
  | reading
  /-- A form feed has ended the page; `stored` columns still have to be printed. -/
  | fed
  | held
  | done
deriving DecidableEq

/-- A column of a page. -/
structure PageColumn where
  status   : ColumnStatus := .reading
  input    : Nat
  /-- The lines that are left to print, those that are stored, and the next of them. -/
  left     : Int := 0
  stored   : Nat := 0
  next     : Nat := 0
  /-- Where the column begins; zero for anywhere. -/
  start    : Nat := 0
  numbered : Bool := false
  stores   : Bool := false
  /-- Whether the last page was full, so that a form feed in front of the next line ends no page. -/
  full     : Bool := false

/-- Pages that are being printed. -/
structure Printing where
  layout   : PageLayout
  inputs   : Array (List Char)
  columns  : Array PageColumn
  /-- The lines that are stored, each with the place behind it, and the one that is being stored, the
  last character first. -/
  lines    : Array (List Char × Int) := #[]
  storing  : List Char := []
  /-- The output, the last character first. -/
  out      : List Char := []
  /-- How many columns can be read. -/
  ready    : Int
  page     : Nat := 1
  line     : Int
  /-- The parts of a header in front of and behind the blanks. -/
  date     : String
  title    : String
  /-- Places in the line that is read and in the one that is printed. -/
  inPlace  : Int := 0
  outPlace : Int := 0
  /-- Blanks and separators that are held back, and the place that a column begins at. -/
  blanks     : Int := 0
  separators : Nat := 0
  padding    : Nat := 0
  printed    : Bool := false
  aligns     : Bool := false
  isEmpty    : Bool := true
  onlyFeed   : Bool := true
  wantsHead  : Bool := false
  wantsFeed  : Bool := false

/-- Steps that print. -/
abbrev Press := StateM Printing

namespace Press

/-! ### Characters -/

/-- Prints a character as it is. -/
def put (c : Char) : Press Unit := modify fun p => { p with out := c :: p.out }

/-- Prints the blanks that were held back. -/
def putBlanks : Press Unit := modify fun p =>
  let (mark, every) := p.layout.outputTab
  let goal := p.outPlace + p.blanks
  let rec go : (fuel : Nat) → (place : Int) → List Char → List Char
    | 0, _, out => out
    | fuel + 1, place, out =>
      let next := place + tabGap every place
      if goal - place > 1 && next ≤ goal then go fuel next (mark :: out)
      else List.replicate (goal - place).toNat ' ' ++ out
  { p with out := go (p.blanks.toNat + 1) p.outPlace p.out, outPlace := goal, blanks := 0 }

/-- Prints the blanks that were held back, if there are any. -/
def putHeldBlanks : Press Unit := do
  if (← get).blanks > 0 then putBlanks

/-- Prints a character of a line. -/
def putChar (c : Char) : Press Unit := do
  if (← get).layout.tabs then
    if c = ' ' then
      modify fun p => { p with blanks := p.blanks + 1 }
      return ()
    putHeldBlanks
    if ' ' ≤ c && c ≤ '~' then modify fun p => { p with outPlace := p.outPlace + 1 }
    else if c = '\x08' then modify fun p => { p with outPlace := p.outPlace - 1 }
  put c

/-- Goes to a place of the line. -/
def padTo (place : Nat) : Press Unit := modify fun p =>
  if p.layout.tabs then { p with blanks := place - p.outPlace }
  else
    { p with
      out := List.replicate ((place : Int) - p.outPlace).toNat ' ' ++ p.out, outPlace := place }

/-- Prints the separator in front of a column, if it is not the first. -/
def putSeparator : Press Unit := do
  let p ← get
  if p.separators = 0 then putHeldBlanks
  else
    for c in p.layout.separator.toList do
      if c = ' ' then modify fun p => { p with blanks := p.blanks + 1 }
      else
        putHeldBlanks
        put c
        modify fun p => { p with outPlace := p.outPlace + 1 }
    putHeldBlanks
    modify fun p => { p with separators := 0 }

/-- Prints or stores a character of a column. -/
def give (column : PageColumn) (c : Char) : Press Unit :=
  if column.stores then modify fun p => { p with storing := c :: p.storing } else putChar c

/-! ### Columns -/

/-- A column by its number. -/
def column (k : Nat) : Press PageColumn := do return ((← get).columns[k]?).getD { input := 0 }

/-- Changes a column. -/
def change (k : Nat) (f : PageColumn → PageColumn) : Press Unit :=
  modify fun p => { p with columns := p.columns.modify k f }

/-- Changes all columns. -/
def changeAll (f : PageColumn → PageColumn) : Press Unit :=
  modify fun p => { p with columns := p.columns.map f }

/-- Ends the input of a column. -/
def close (k : Nat) : Press Unit := do
  if (← column k).status = .done then return ()
  if (← get).layout.flow = .merged then change k ({ · with status := .done, left := 0 })
  else
    changeAll fun c => { c with status := .done, left := if c.stored = 0 then 0 else c.left }
  modify fun p => { p with ready := p.ready - 1 }

/-- Ends the page of a column. -/
def hold (k : Nat) : Press Unit := do
  match (← get).layout.flow with
  | .merged => change k ({ · with status := .held })
  | .down   => changeAll ({ · with status := .fed })
  | .across => changeAll ({ · with status := .held })
  change k ({ · with left := 0 })
  modify fun p => { p with ready := p.ready - 1 }

/-- The next character of an input. -/
def next (k : Nat) : Press (Option Char) := do
  let n := (← column k).input
  match ((← get).inputs[n]?).getD [] with
  | []        => return none
  | c :: rest =>
    modify fun p => { p with inputs := p.inputs.setIfInBounds n rest }
    return some c

/-- Passes the end of a line that follows here. -/
def passEnd (k : Nat) : Press Unit := do
  let n := (← column k).input
  modify fun p =>
    match p.inputs[n]? with
    | some ('\n' :: rest) => { p with inputs := p.inputs.setIfInBounds n rest }
    | _                   => p

/-- What is left of an input. -/
def rest (k : Nat) : Press (List Char) := do
  return ((← get).inputs[(← column k).input]?).getD []

/-- Ends a page at a form feed that has been passed. -/
def feed (k : Nat) : Press Unit := do
  passEnd k
  if (← get).layout.keepsFeeds then modify ({ · with wantsFeed := true })
  hold k

/-- Passes the rest of a line. -/
def skipRest (k : Nat) : (fuel : Nat) → Press Unit
  | 0 => pure ()
  | fuel + 1 => do
    match ← next k with
    | some '\n' => return ()
    | some '\x0c' => feed k
    | none => close k
    | some _ => skipRest k fuel

/-! ### Lines -/

/-- Prints the header of a page. -/
def putHeader : Press Unit := do
  modify ({ · with outPlace := 0 })
  let p ← get
  padTo p.layout.margin
  putBlanks
  let page := "Page " ++ toString p.page
  let room := p.layout.width - p.date.length - p.title.length - page.length
  let left := room / 2
  let gap (n : Nat) : String := repeated (max n 1) ' '
  let text := "\n\n" ++ repeated p.layout.margin ' ' ++ p.date ++ gap left ++ p.title ++
    gap (room - left) ++ page ++ "\n\n\n"
  modify fun p =>
    { p with out := text.toList.reverse ++ p.out, wantsHead := false, outPlace := 0 }

/-- Gives a column the number of a line. -/
def giveNumber (k : Nat) : Press Unit := do
  let c ← column k
  let p ← get
  let l := p.layout
  let (mark, digits) := l.numberMark
  let text := toString p.line
  let text := repeated (digits - text.length) ' ' ++ text
  modify fun p => { p with line := p.line + 1 }
  for d in text.toList.drop (text.length - digits) do give c d
  if l.columns > 1 then
    if mark = '\t' then
      for _ in List.range (l.numberWidth - digits) do give c ' '
    else give c mark
  else
    give c mark
    if mark = '\t' then
      modify fun p => { p with outPlace := p.outPlace + tabGap l.outputTab.2 p.outPlace }
  if l.cuts && l.flow != .merged then
    modify fun p => { p with inPlace := p.inPlace + l.numberWidth }

/-- Goes to the beginning of a column. -/
def align (k : Nat) : Press Unit := do
  let c ← column k
  let l := (← get).layout
  if l.separator.length < c.start then
    padTo (c.start - l.separator.length)
    modify ({ · with padding := 0 })
  else modify ({ · with padding := c.start })
  if l.separates then putSeparator
  if c.numbered then giveNumber k

/-- The characters that one is shown as, and how far they go. -/
def shown (l : PageLayout) (place : Int) (c : Char) : List Char × Int :=
  let code := c.toNat
  let octal := '\\' :: [code / 64 % 8, code / 8 % 8, code % 8].map fun d => Char.ofNat (48 + d)
  let (mark, every) := l.inputTab
  if c = mark || c = '\t' then
    let gap := tabGap (if c = mark then every else 8) place
    (if l.expands then List.replicate gap.toNat ' ' else [c], gap)
  else if ' ' ≤ c && c ≤ '~' then ([c], 1)
  else if l.escapes then (octal, 4)
  else if l.carets then
    if code < 128 then (['^', Char.ofNat (code ^^^ 64)], 2) else (octal, 4)
  else if c = '\x08' then ([c], -1)
  else ([c], 0)

/-- Takes a character of a line, and answers what it is shown as; nothing if it is too far. -/
def take (c : Char) : Press (Option (List Char)) := do
  let p ← get
  let (chars, far) := shown p.layout p.inPlace c
  let (chars, place) :=
    if far < 0 then (if p.inPlace = 0 then ([], 0) else (chars, max 0 (p.inPlace + far)))
    else (chars, p.inPlace + far)
  if p.layout.cuts && place > p.layout.columnWidth then return none
  set { p with inPlace := place }
  return some chars

/-- Reads the rest of a line, and answers whether it was read up to its end. -/
def readMore (k : Nat) : (fuel : Nat) → Press Bool
  | 0 => return true
  | fuel + 1 => do
    match ← next k with
    | some '\n' => return true
    | some '\x0c' =>
      feed k
      return true
    | none =>
      close k
      return true
    | some c =>
      match ← take c with
      | none => return false
      | some chars =>
        for d in chars do give (← column k) d
        readMore k fuel

/-- Prepares the output for a line of a column. -/
def prepare (k : Nat) : Press Unit := do
  modify ({ · with printed := true })
  let c ← column k
  let l := (← get).layout
  if (← get).wantsHead && l.flow != .down then putHeader
  if l.flow = .merged && (← get).aligns then
    let count := (← get).separators
    modify ({ · with separators := 0 })
    for j in List.range count do
      align j
      modify fun p => { p with separators := p.separators + 1 }
    modify fun p =>
      { p with padding := c.start, blanks := if l.cuts then l.columnWidth else 0, aligns := false }
  let padding := (← get).padding
  if l.separator.length < padding then
    padTo (padding - l.separator.length)
    modify ({ · with padding := 0 })
  if l.separates then putSeparator

/-- Reads a line of a column, and answers whether it was read up to its end. -/
def readLine (k : Nat) : Press Bool := do
  let before := (← get).inPlace
  let first ← next k
  let first ← if first = some '\x0c' && (← column k).full then do
      let second ← next k
      if second = some '\n' then next k else pure second
    else pure first
  change k ({ · with full := false })
  match first with
  | some '\x0c' =>
    passEnd k
    modify ({ · with onlyFeed := true })
    let p ← get
    if p.wantsHead && p.layout.flow != .down then
      modify ({ · with printed := true })
      putHeader
    else if p.layout.keepsFeeds then modify ({ · with wantsFeed := true })
    hold k
    return true
  | none =>
    close k
    return true
  | some c =>
    let chars ← if c = '\n' then pure (some []) else take c
    match chars with
    | none =>
      modify ({ · with inPlace := before })
      return false
    | some chars =>
      let own ← column k
      if !own.stores then prepare k
      if own.numbered then giveNumber k
      modify ({ · with isEmpty := false })
      if c = '\n' then return true
      for d in chars do give own d
      readMore k ((← rest k).length + 1)

/-- Prints a line that is stored. -/
def putStored (k : Nat) : Press Unit := do
  let c ← column k
  change k ({ · with next := c.next + 1 })
  modify ({ · with printed := true })
  if (← get).wantsHead then putHeader
  let l := (← get).layout
  if c.status = .fed then
    changeAll ({ · with status := .held })
    if c.left ≤ 0 then
      if !l.headed then modify ({ · with printed := false })
      return ()
  let padding := (← get).padding
  if l.separator.length < padding then
    padTo (padding - l.separator.length)
    modify ({ · with padding := 0 })
  if l.separates then putSeparator
  let (text, place) := ((← get).lines[c.next]?).getD ([], 0)
  for d in text do putChar d
  if (← get).blanks = 0 then
    let far : Int := c.start + place
    let far := if (c.start : Int) - l.separator.length = l.margin then far - l.separator.length else far
    modify ({ · with outPlace := far })

/-! ### Pages -/

/-- Reads the lines of a page that stand below each other, and spreads them evenly. -/
def storeColumns : Press Unit := do
  modify ({ · with lines := #[], storing := [] })
  changeAll ({ · with stored := 0 })
  let l := (← get).layout
  for k in List.range l.columns do
    if (← get).ready ≤ 0 then break
    let first := (← get).lines.size
    change k ({ · with next := first })
    for _ in List.range l.body do
      if (← get).ready ≤ 0 then break
      if (← column k).status = .reading then
        modify ({ · with inPlace := 0 })
        if !(← readLine k) then skipRest k ((← rest k).length + 1)
        if (← column k).status = .reading || !(← get).storing.isEmpty then
          change k fun c => { c with stored := c.stored + 1 }
          modify fun p => { p with lines := p.lines.push (p.storing.reverse, p.inPlace), storing := [] }
  let total := (← get).lines.size
  let spread := (List.range l.columns).foldl
    (fun (first, (columns : Array PageColumn)) k =>
      let count := total / l.columns + (if k < total % l.columns then 1 else 0)
      (first + count, columns.modify k ({ · with stored := count, next := first })))
    (0, (← get).columns)
  modify ({ · with columns := spread.2 })

/-- Prepares a page. -/
def beginPage : Press Unit := do
  let l := (← get).layout
  if l.flow = .down then
    storeColumns
    changeAll fun c => { c with left := c.stored }
  else changeAll fun c => { c with left := if c.status = .reading then l.body else 0 }

/-- Whether columns have something to print. -/
def isReady : Press Bool := do
  let p ← get
  return p.columns.any fun c =>
    c.status = .reading || c.status = .fed ||
      (p.layout.flow = .down && c.stored > 0 && c.left > 0)

/-- Prints the part of a column in a line, and answers whether the line goes on. -/
def putPart (k : Nat) : Press Bool := do
  modify ({ · with inPlace := 0 })
  let c ← column k
  let l := (← get).layout
  if c.left > 0 || c.status = .fed then
    modify ({ · with onlyFeed := false, padding := c.start })
    if l.flow = .down then putStored k
    else if !(← readLine k) then skipRest k ((← rest k).length + 1)
    change k fun c => { c with left := c.left - 1 }
    if (← column k).left ≤ 0 then
      if !(← isReady) then return false
    let status := (← column k).status
    if l.flow = .merged && status != .reading then
      let p ← get
      if p.isEmpty then modify ({ · with aligns := true })
      else if status = .done || (status = .held && p.onlyFeed) then align k
  else if l.flow = .merged then
    if (← get).isEmpty then modify ({ · with aligns := true }) else align k
  if l.separates then modify fun p => { p with separators := p.separators + 1 }
  return true

/-- Prints the parts of a line in the columns from one on, and answers whether something was printed. -/
def putParts (total : Nat) : (fuel : Nat) → (k : Nat) → Press Bool
  | 0, _ => return false
  | fuel + 1, k => do
    if k ≥ total then return false
    let goesOn ← putPart k
    let printed := (← get).printed
    if goesOn then return printed || (← putParts total fuel (k + 1)) else return printed

/-- Prints the lines of a page, and answers how many are left and whether something was printed. -/
def putLines : (fuel : Nat) → (left : Int) → (any : Bool) → Press (Int × Bool)
  | 0, left, any => return (left, any)
  | fuel + 1, left, any => do
    if left ≤ 0 || !(← isReady) then return (left, any)
    let l := (← get).layout
    modify ({ · with
      outPlace := 0, blanks := 0, separators := 0, printed := false, aligns := false, isEmpty := true })
    let any := (← putParts l.columns l.columns 0) || any
    let left ← if (← get).printed then do
        put '\n'
        pure (left - 1)
      else pure left
    if !(← isReady) && !l.headed then return (left, any)
    if l.doubled && any then
      put '\n'
      putLines fuel (left - 1) any
    else putLines fuel left any

/-- Makes columns ready for the next page. -/
def endPage : Press Unit := modify fun p =>
  let held := (p.columns.filter (·.status = .held)).size
  let columns := p.columns.map fun c => if c.status = .held then { c with status := .reading } else c
  let ready : Int :=
    if p.layout.flow = .down then (if columns[0]?.all (·.status = .done) then 0 else 1)
    else p.ready + held
  { p with columns, ready }

/-- Prints a page, and answers whether there are more. -/
def putPage : Press Bool := do
  beginPage
  if !(← isReady) then return false
  let l := (← get).layout
  if l.headed then modify ({ · with wantsHead := true })
  modify ({ · with printed := false })
  let lines := if l.doubled then 2 * l.body else l.body
  let (left, any) ← putLines (2 * lines + 2) lines false
  if left = 0 then changeAll fun c => { c with full := c.full || c.status = .reading }
  if any && l.headed then
    if l.feeds then put '\x0c'
    else
      for _ in List.range (left + footerLines).toNat do put '\n'
  else if l.keepsFeeds && (← get).wantsFeed then
    put '\x0c'
    modify ({ · with wantsFeed := false })
  modify fun p => { p with page := p.page + 1 }
  if l.last.any (· < (← get).page) then return false
  endPage
  return true

/-- Prints pages. -/
def putPages : (fuel : Nat) → Press Unit
  | 0 => pure ()
  | fuel + 1 => do
    if ← putPage then putPages fuel

/-! ### Pages that are left out -/

/-- Passes a line of a column; `isLast` for the last line of a page. -/
def skipLine (isLast : Bool) (k : Nat) : Press Unit := do
  let first ← next k
  let first ← if first = some '\x0c' && (← column k).full then do
      let second ← next k
      if second = some '\n' then next k else pure second
    else pure first
  change k ({ · with full := isLast })
  let rec go : (fuel : Nat) → Option Char → Press Unit
    | 0, _ => pure ()
    | fuel + 1, c => do
      match c with
      | some '\n' => return ()
      | some '\x0c' =>
        if isLast then
          if (← get).layout.flow = .merged then change k ({ · with full := false })
          else changeAll ({ · with full := false })
        passEnd k
        hold k
      | none => close k
      | some _ => go fuel (← next k)
  go ((← rest k).length + 2) first
  let l := (← get).layout
  if l.countsAll && (l.flow != .merged || k = 0) && first != some '\x0c' then
    modify fun p => { p with line := p.line + 1 }

/-- Passes a line of each column. -/
def skipLines (isLast : Bool) : Press Unit := do
  for k in List.range (← get).layout.columns do
    if (← column k).status = .reading then skipLine isLast k

/-- Passes a number of pages; answers the number of the page behind which there are no more. -/
def skipPages : (count : Nat) → (page : Nat) → Press (Option Nat)
  | 0, _ => return none
  | count + 1, page => do
    let l := (← get).layout
    for _ in List.range (l.body - 1) do skipLines false
    skipLines true
    if l.flow = .down then
      changeAll fun c => if c.status = .done then c else { c with status := .held }
    endPage
    if (← get).ready < 1 then return some page else skipPages count (page + 1)

end Press

/-- The columns of a layout, over a number of inputs. -/
def PageLayout.pageColumns (l : PageLayout) : Array PageColumn :=
  let n := l.separator.length
  let merged : Bool := l.flow = .merged
  let width (k : Nat) : Nat :=
    l.columnWidth + (if k = 0 && merged && l.numbered then l.numberWidth else 0)
  let starts := (List.range l.columns).map fun k =>
    if k = 0 then l.margin + n
    else if !l.cuts then 0
    else l.margin + ((List.range k).map fun j => width j + n).foldl (· + ·) 0
  (starts.zipIdx.map fun (start, k) =>
    { input := if merged then k else 0, start
      numbered := l.numbered && (!merged || k = 0), stores := l.flow = .down : PageColumn }).toArray

end BoardConsole.Shell.Utility
