import BoardConsole.Shell.Utility.Text

/-!
# Shell — Filled lines

`fmt` breaks the words of paragraphs into lines that are about as long as wanted. Each way to break a
paragraph has a cost, and it takes one that costs least: for lines that are shorter than the others,
and for breaks at bad places.
-/

namespace BoardConsole.Shell.Utility

open Act

def fmtUsage : Usage :=
  { program := "fmt", letters := "0123456789cstuw:p:g:", misuse := 1
    names := [("crown-margin", 'c'), ("prefix", 'p'), ("split-only", 's'), ("tagged-paragraph", 't'),
      ("uniform-spacing", 'u'), ("width", 'w'), ("goal", 'g')] }

/-! ### Words -/

/-- A word with the space behind it. -/
structure FilledWord where
  text   : String
  length : Nat
  space  : Nat
  /-- Whether it begins with a bracket or a quote. -/
  opens  : Bool
  /-- Whether it ends like a sentence, apart from brackets and quotes. -/
  stops  : Bool
  /-- Whether its last character is a punctuation mark. -/
  marked : Bool
  /-- Whether it is the last one of a sentence. -/
  final  : Bool

/-- Whether a character is printed, but no letter, digit or blank. -/
def isPunctuation (c : Char) : Bool := '!' ≤ c && c ≤ '~' && !c.isAlphanum

/-- A word without what follows it. -/
def FilledWord.ofText (cs : List Char) : FilledWord :=
  let behind := match cs.reverse with
    | []           => []
    | all@(_ :: _) =>
      let inner := all.dropWhile [')', ']', '\'', '"'].contains
      if inner.isEmpty then cs.take 1 else inner
  { text   := String.ofList cs
    length := cs.length
    space  := 0
    opens  := cs.head?.any ['(', '[', '\'', '\x60', '"'].contains
    stops  := behind.head?.any ['.', '?', '!'].contains
    marked := cs.getLast?.any isPunctuation
    final  := false }

/-! ### Costs -/

/-- What it costs that a line differs from what is wanted by some columns. -/
def shortCost (n : Int) : Int := n * 10 * (n * 10)

/-- What it costs that lines which follow each other differ by some columns. -/
def raggedCost (n : Int) : Int := shortCost n / 2

/-- What a line costs that begins with some word, for the place of its break. -/
def breakCost (words : Array FilledWord) (k : Nat) : Int :=
  let before :=
    match k, words[k - 1]? with
    | 0, _ | _, none => 0
    | _ + 1, some w =>
      if w.stops then (if w.final then -2500 else 360000)
      else if w.marked then -1600
      else if k > 1 && (words[k - 2]?).any (·.final) then 40000 / (w.length + 2)
      else 0
  let own :=
    match words[k]? with
    | none => 0
    | some w => if w.opens then -1600 else if w.final then 22500 / (w.length + 2) else 0
  4900 + before + own

/-- How the words from one on are broken into lines: what that costs, how long the first line is, and
which word the next line begins with. -/
structure Breaks where
  cost   : Int
  length : Nat
  next   : Nat

/-- The widths of lines. -/
structure Widths where
  most : Nat
  goal : Nat

/-- The best first line of the words from one on. `after` are the breaks of the words behind it. -/
def bestBreaks (s : Widths) (words : Array FilledWord) (after : Nat → Breaks) (start : Nat) :
    (fuel : Nat) → (k : Nat) → (length : Nat) → Option Breaks → Breaks
  | 0, _, length, best => best.getD ⟨0, length, start + 1⟩
  | fuel + 1, k, length, best =>
    let line : Int :=
      if k ≥ words.size then 0
      else
        let following := after k
        shortCost (s.goal - length) +
          (if following.next ≥ words.size then 0 else raggedCost (length - following.length)) +
          following.cost
    let best := match best with
      | some b => if line < b.cost then ⟨line, length, k⟩ else b
      | none   => ⟨line, length, k⟩
    match words[k - 1]?, words[k]? with
    | some w, some w' =>
      let length := length + w.space + w'.length
      if length < s.most then bestBreaks s words after start fuel (k + 1) length (some best) else best
    | _, _ => best

/-- The breaks of the words from each on. -/
def allBreaks (s : Widths) (first other : Nat) (words : Array FilledWord) : Array Breaks :=
  let n := words.size
  let table := (List.range n).foldl
    (fun (table : Array Breaks) k =>
      let start := n - 1 - k
      let after (k : Nat) : Breaks := table.getD (n - 1 - k) ⟨0, 0, n⟩
      let indent := if start = 0 then first else other
      let length := indent + (words[start]?.map (·.length)).getD 0
      let b := bestBreaks s words after start (n + 1) (start + 1) length none
      table.push { b with cost := b.cost + breakCost words start })
    #[]
  table.reverse

/-! ### Paragraphs -/

/-- How paragraphs are found and written. -/
structure Filling where
  widths  : Widths
  /-- Whether the first two lines have indents of their own, and must differ in them. -/
  crown   : Bool
  tagged  : Bool
  split   : Bool
  uniform : Bool
  /-- What filled lines begin with: blanks, some text, and blanks. -/
  lead    : Nat
  mark    : List Char
  behind  : Nat

/-- A text that is being read: what is left, the column of its first character, where the mark of its
line stands, and whether there have been tabs. -/
structure FillState where
  rest   : List Char
  column : Nat
  lead   : Nat
  tabs   : Bool
  /-- The indent of lines but the first. -/
  other  : Nat
  /-- The output, the last part first. -/
  out    : List String

/-- The state behind blanks. -/
def FillState.skip : (fuel : Nat) → FillState → FillState
  | 0, s => s
  | fuel + 1, s =>
    match s.rest with
    | ' ' :: rest  => FillState.skip fuel { s with rest, column := s.column + 1 }
    | '\t' :: rest => FillState.skip fuel { s with rest, column := s.column / 8 * 8 + 8, tabs := true }
    | _            => s

/-- The state behind some text, as far as it is there, and whether all of it was. -/
def FillState.skipMark (s : FillState) : List Char → FillState × Bool
  | [] => (s, true)
  | c :: mark =>
    match s.rest with
    | d :: rest =>
      if c = d then FillState.skipMark { s with rest, column := s.column + 1 } mark else (s, false)
    | [] => (s, false)

/-- The state behind the beginning of a line. -/
def FillState.begin (f : Filling) (s : FillState) : FillState :=
  let s := FillState.skip (s.rest.length + 1) { s with column := 0 }
  if f.mark.isEmpty then { s with lead := min f.lead s.column }
  else
    let (s, whole) := { s with lead := s.column }.skipMark f.mark
    if whole then s.skip (s.rest.length + 1) else s

/-- The state behind the end of a line. -/
def FillState.nextLine (f : Filling) (s : FillState) : FillState :=
  { s with rest := s.rest.drop 1 }.begin f

/-- Blanks from a column on, as tabs where the input has such. -/
def FillState.blanks (s : FillState) (column count : Nat) : String :=
  let target := column + count
  let stop := target / 8 * 8
  if s.tabs && column + 1 < stop then
    repeated ((stop - column + 7) / 8) '\t' ++ repeated (target - stop) ' '
  else repeated count ' '

/-- Whether a line has words. -/
def FillState.hasWords (s : FillState) : Bool := s.rest.head?.any (· != '\n')

/-- The words of a line, and the state in front of its end. -/
def FillState.words (f : Filling) : (fuel : Nat) → FillState → List FilledWord × FillState
  | 0, s => ([], s)
  | fuel + 1, s =>
    let isSpace (c : Char) : Bool := c = ' ' || ('\t' ≤ c && c ≤ '\r')
    let text := s.rest.take 1 ++ (s.rest.drop 1).takeWhile (!isSpace ·)
    let start := s.column + text.length
    let s := FillState.skip (s.rest.length + 1)
      { s with rest := s.rest.drop text.length, column := start }
    let w := FilledWord.ofText text
    let ends := s.rest.head?.all (· = '\n')
    let space := s.column - start
    let final := s.rest.isEmpty || (w.stops && (ends || space > 1))
    let space := if ends || f.uniform then (if final then 2 else 1) else space
    let w := { w with space, final }
    if ends then ([w], s)
    else
      let (more, s) := FillState.words f fuel s
      (w :: more, s)

/-- The words of lines with one indent, if there may be any, and the state behind them. -/
def FillState.lines (f : Filling) (fits : FillState → Bool) : (fuel : Nat) → FillState →
    List FilledWord × FillState
  | 0, s => ([], s)
  | fuel + 1, s =>
    if fits s then
      let (words, s) := s.words f (s.rest.length + 1)
      let (more, s) := FillState.lines f fits fuel (s.nextLine f)
      (words ++ more, s)
    else ([], s)

/-- A line that is no part of a paragraph, without its end. -/
def FillState.copied (f : Filling) (s : FillState) : String × FillState :=
  let line := s.rest.takeWhile (· != '\n')
  let rest := s.rest.drop line.length
  let ended := s.rest.isEmpty
  let start :=
    if s.column > s.lead || !line.isEmpty then
      let mark := f.mark.take (s.column - s.lead)
      s.blanks 0 s.lead ++ String.ofList mark ++
        (if line.isEmpty then ""
          else s.blanks (s.lead + mark.length) (s.column - s.lead - mark.length)) ++
        (if ended && s.column ≥ s.lead + f.mark.length then "\n" else "")
    else ""
  (start ++ String.ofList line, { s with rest })

/-- The indent of lines but the first, told when the next line is known. -/
def FillState.indent (f : Filling) (s : FillState) (first : Nat) (same : Bool) : Nat :=
  if f.split then first
  else if f.crown then (if same then s.column else first)
  else if f.tagged then
    if same && s.column != first then s.column
    else if s.other = first then (if first = 0 then 3 else 0)
    else s.other
  else first

/-- The lines of a paragraph. -/
def FillState.filled (f : Filling) (s : FillState) (lead first other : Nat)
    (words : Array FilledWord) : List String :=
  let table := allBreaks f.widths first other words
  let rec go : (fuel : Nat) → (start : Nat) → List String
    | 0, _ => []
    | fuel + 1, start =>
      match table[start]? with
      | none => []
      | some b =>
        let indent := if start = 0 then first else other
        let front := s.blanks 0 lead ++ String.ofList f.mark
        let column := lead + f.mark.length
        let line := (words.extract start b.next).toList
        let (text, _) := line.dropLast.foldl
          (fun (text, column) w =>
            let column := column + w.length
            (s.blanks column w.space :: w.text :: text, column + w.space))
          ([s.blanks column (indent - column), front], max column indent)
        let last := (line.getLast?.map (·.text)).getD ""
        String.join ("\n" :: last :: text).reverse :: go fuel b.next
  go (words.size + 1) 0

/-- Fills all paragraphs of a text. -/
def FillState.run (f : Filling) : (fuel : Nat) → FillState → FillState
  | 0, s => s
  | fuel + 1, s =>
    let full := f.mark.length + f.behind
    if !s.hasWords || s.lead < f.lead || s.column < s.lead + full then
      let (line, s) := s.copied f
      if s.rest.isEmpty then { s with out := line :: s.out }
      else FillState.run f fuel ({ s with out := (line ++ "\n") :: s.out }.nextLine f)
    else
      let lead := s.lead
      let first := s.column
      let same (s : FillState) : Bool := s.lead = lead && s.column ≥ s.lead + full && s.hasWords
      let (words, s) := s.words f (s.rest.length + 1)
      let s := s.nextLine f
      let s := { s with other := s.indent f first (same s) }
      let other := s.other
      let fits (s : FillState) : Bool := same s && s.column = other
      let (more, s) :=
        if f.split then ([], s)
        else if f.tagged && !f.crown && s.column = first then ([], s)
        else s.lines f fits (s.rest.length + 1)
      let words := words ++ more
      let words := words.dropLast ++ (words.drop (words.length - 1)).map fun w =>
        { w with stops := true, final := true }
      let lines := s.filled f lead first other words.toArray
      FillState.run f fuel { s with out := lines.reverse ++ s.out }

/-- A text with filled paragraphs. -/
def fillText (f : Filling) (text : String) : String :=
  let s : FillState := ⟨text.toList, 0, 0, false, 0, []⟩
  String.join ((s.begin f).run f (2 * text.length + 2)).out.reverse

/-! ### The utility -/

/-- The width that a text spells. -/
def fillWidth (most : Nat) (s : String) : Except String Nat :=
  let digits := (if s.startsWith "+" then s.drop 1 else s.drop 0).toString
  if digits = "" || !digits.all Char.isDigit then .error ("invalid width: " ++ cited s)
  else
    let n := Arithmetic.valueOf 10 digits.toList
    if n ≤ most then .ok n
    else
      .error ("invalid width: " ++ cited s ++ ": " ++
        (if n < Nat.pow 2 30 then "Numerical result out of range"
          else "Value too large for defined data type"))

/-- What the arguments ask for. -/
def Filling.ofArguments (a : Arguments) : Except String Filling := do
  let most ← (a.last? 'w').mapM (fillWidth 2500)
  let goal ← (a.last? 'g').mapM (fillWidth (most.getD 75))
  let widths : Widths := match most, goal with
    | _, none           => ⟨most.getD 75, most.getD 75 * 187 / 200⟩
    | some most, some g => ⟨most, g⟩
    | none, some g      => ⟨g + 10, g⟩
  let mark := ((a.last? 'p').getD "").toList
  let lead := (mark.takeWhile (· = ' ')).length
  let mark := mark.drop lead
  let bare := (mark.reverse.dropWhile (· = ' ')).reverse
  return ⟨widths, a.has 'c', a.has 't', a.has 's', a.has 'u', lead, bare, mark.length - bare.length⟩

/-- Fills the lines of inputs. -/
def fmt : Builtin := fun _ args =>
  let args := match args with
    | a :: rest =>
      match a.toList with
      | '-' :: c :: cs => if c.isDigit then ("-w" ++ String.ofList (c :: cs)) :: rest else args
      | _ => args
    | [] => []
  fmtUsage.run args fun a => do
    match (a.options.map (·.1)).find? Char.isDigit with
    | some c =>
      return ← fmtUsage.refuse ("invalid option -- " ++ String.ofList [c] ++
        "; -WIDTH is recognized only when it is the first\noption; use -w N instead")
    | none => pure ()
    match Filling.ofArguments a with
    | .error message =>
      fmtUsage.complain message
      return 1
    | .ok f =>
      let words (name reason : String) : String :=
        if reason = PathFault.isADirectory.reason then "fmt: read error"
        else "fmt: cannot open " ++ quoted name ++ " for reading: " ++ reason
      let (texts, failed) ← readInputs words a.rest
      finish "fmt" (String.join (texts.map fun t => fillText f t.2)) failed

end BoardConsole.Shell.Utility
