import BoardConsole.Shell.Regex.Perl
import BoardConsole.Shell.Utility.Paths

/-!
# Shell — Searching for lines

Lines that some regular expressions match, of some inputs.
-/

namespace BoardConsole.Shell.Utility

open Act

def grepUsage : Usage :=
  { program := "grep", letters := "0123456789aA:bB:cC:d:D:e:Ef:FGhHiIlLm:noPqrRsTuUvVwxyzZι:ε:φ:δ:λ:κ::β:γ:νΛ"
    misuse := 2
    names := [("count", 'c'), ("ignore-case", 'i'), ("no-ignore-case", 'Λ'), ("invert-match", 'v'),
      ("quiet", 'q'), ("silent", 'q'), ("line-number", 'n'), ("files-with-matches", 'l'),
      ("files-without-match", 'L'), ("fixed-strings", 'F'), ("extended-regexp", 'E'),
      ("basic-regexp", 'G'), ("perl-regexp", 'P'), ("word-regexp", 'w'), ("line-regexp", 'x'),
      ("only-matching", 'o'), ("max-count", 'm'), ("regexp", 'e'), ("file", 'f'),
      ("no-messages", 's'), ("no-filename", 'h'), ("with-filename", 'H'), ("label", 'λ'),
      ("recursive", 'r'), ("dereference-recursive", 'R'), ("directories", 'd'), ("devices", 'D'),
      ("include", 'ι'), ("exclude", 'ε'), ("exclude-from", 'φ'), ("exclude-dir", 'δ'),
      ("after-context", 'A'), ("before-context", 'B'), ("context", 'C'), ("text", 'a'),
      ("binary-files", 'β'), ("binary", 'U'), ("byte-offset", 'b'), ("initial-tab", 'T'),
      ("null", 'Z'), ("null-data", 'z'), ("color", 'κ'), ("colour", 'κ'), ("line-buffered", 'u'),
      ("group-separator", 'γ'), ("no-group-separator", 'ν')] }

/-! ### What is searched for -/

/-- What is searched for. -/
structure Wanted where
  regexes : List Regex
  anyCase : Bool
  invert  : Bool

/-- The first match in a text behind another one, which stands last first; of several that begin
together, the longest. -/
def Wanted.match? (w : Wanted) (passed text : List Char) : Option Regex.Match :=
  (w.regexes.filterMap fun r => r.findBehind w.anyCase passed text).foldl
    (fun best m =>
      match best with
      | none => some m
      | some b =>
        if m.before.length < b.before.length ||
            (m.before.length = b.before.length && b.text.length < m.text.length) then some m
        else best) none

/-- Whether a line is one that is searched for. -/
def Wanted.selects (w : Wanted) (line : String) : Bool :=
  (w.regexes.any fun r => (r.find w.anyCase line.toList).isSome) != w.invert

/-- All matches in a line that are not empty, each with what stands between it and the one before, and
last what follows them. -/
def Wanted.matches (w : Wanted) : (fuel : Nat) → (passed skipped text : List Char) →
    List (List Char × List Char) × List Char
  | 0, _, skipped, cs => ([], skipped ++ cs)
  | fuel + 1, passed, skipped, cs =>
    match w.match? passed cs with
    | none => ([], skipped ++ cs)
    | some m =>
      let passed := m.text.reverse ++ m.before.reverse ++ passed
      if m.text.isEmpty then
        match m.after with
        | []        => ([], skipped ++ cs)
        | c :: rest => w.matches fuel (c :: passed) (skipped ++ m.before ++ [c]) rest
      else
        let (more, last) := w.matches fuel passed [] m.after
        ((skipped ++ m.before, m.text) :: more, last)

/-- The expressions that texts spell, each of their lines one, or what is wrong with them. -/
def wantedOf (a : Arguments) (patterns : List String) : Except String Wanted := do
  let form := ((a.options.map (·.1)).filter ['E', 'F', 'G', 'P'].contains).getLast?
  if form = some 'P' && patterns.length != 1 then
    throw "the -P option only supports a single pattern"
  let regexes ← patterns.mapM fun s =>
    match form with
    | some 'F' => .ok (Regex.literal s)
    | some 'P' => (Regex.Perl.ofText s).mapError (·.message)
    | form =>
      let text := s.toList
      if form != some 'E' && text.head? = some '[' && text.getLast? = some ']' &&
          text[1]? = some ':' && text[text.length - 2]? = some ':' && 4 ≤ text.length then
        .error "character class syntax is [[:space:]], not [:space:]"
      else
        (Regex.ofText { extended := form = some 'E', lenient := true } s).mapError
          (·.message)
  let regexes := if a.has 'w' then regexes.map Regex.asWord else regexes
  let regexes := if a.has 'x' then regexes.map Regex.asWhole else regexes
  let regexes := if form = some 'P' then regexes.map Regex.once else regexes
  let cases := ((a.options.map (·.1)).filter ['i', 'y', 'Λ'].contains).getLast?
  return ⟨regexes, cases = some 'i' || cases = some 'y', a.has 'v'⟩

/-! ### How lines are shown -/

/-- What is shown of lines. -/
structure Style where
  /-- Whether lines have the names of their inputs. -/
  titled    : Bool
  /-- What stands behind a name instead of a colon or a hyphen. -/
  zeroNames : Bool
  numbers   : Bool
  offsets   : Bool
  tabs      : Bool
  ending    : Char
  onlyParts : Bool
  coloured  : Bool
  above     : Nat
  below     : Nat
  /-- What stands between lines that are apart. -/
  separator : Option String

/-- A text in a colour. -/
def Style.paint (s : Style) (colour text : String) : String :=
  if s.coloured then "\x1b[" ++ colour ++ "m\x1b[K" ++ text ++ "\x1b[m\x1b[K" else text

/-- A sign between the parts of a line. -/
def Style.sign (s : Style) (mark : String) : String := s.paint "36" mark

/-- A name as it is shown alone. -/
def Style.name (s : Style) (name : String) : String := s.paint "35" name

/-- A name in front of something. -/
def Style.title (s : Style) (name mark : String) : String :=
  s.name name ++ (if s.zeroNames then "\x00" else s.sign mark)

/-- What stands in front of a line, or of a part of one. -/
def Style.start (s : Style) (name mark : String) (number offset : Nat) : String :=
  let count (n : Nat) : String :=
    let digits := toString n
    if s.tabs then repeated (2 - digits.length) ' ' ++ digits else digits
  let text := (if s.titled then s.title name mark else "") ++
    (if s.numbers then s.paint "32" (count number) ++ s.sign mark else "") ++
    (if s.offsets then s.paint "32" (count offset) ++ s.sign mark else "")
  if s.tabs && (s.titled || s.numbers || s.offsets) then text ++ "\t" else text

/-- A line that is shown. -/
structure Shown where
  number   : Nat
  offset   : Nat
  line     : String
  selected : Bool

/-- A line with the parts in it that are searched for in a colour. -/
def Style.painted (s : Style) (w : Wanted) (l : Shown) : String :=
  if s.coloured && l.selected != w.invert then
    let (parts, last) := w.matches (l.line.length + 1) [] [] l.line.toList
    String.join (parts.map fun (before, text) =>
      String.ofList before ++ s.paint "01;31" (String.ofList text)) ++ String.ofList last
  else l.line

/-- The parts of a line that are searched for, each in a line of its own. -/
def Style.parts (s : Style) (w : Wanted) (name : String) (l : Shown) : String :=
  if w.invert then ""
  else
    let (found, _) := w.matches (l.line.length + 1) [] [] l.line.toList
    let step (state : List String × Nat) (part : List Char × List Char) : List String × Nat :=
      let offset := state.2 + part.1.length
      let text := s.start name ":" l.number offset ++ s.paint "01;31" (String.ofList part.2)
      (text.push s.ending :: state.1, offset + part.2.length)
    String.join (found.foldl step ([], l.offset)).1.reverse

/-- Lines as they are shown, with what stands between those that are apart. -/
def Style.printed (s : Style) (w : Wanted) (name : String) : (last : Option Nat) → List Shown →
    List String
  | _, [] => []
  | last, l :: rest =>
    let apart := last.any (· + 1 < l.number) && 0 < s.above + s.below
    let gap := match apart, s.separator with
      | true, some text => [(s.sign text).push '\n']
      | _, _            => []
    let mark := if l.selected then ":" else "-"
    let text :=
      if s.onlyParts then (if l.selected then s.parts w name l else "")
      else (s.start name mark l.number l.offset ++ s.painted w l).push s.ending
    gap ++ text :: Style.printed s w name (some l.number) rest

/-! ### Going through lines -/

/-- Lines with whether they are selected, up to the last that is looked at, and whether there were
more. `most` is how many are selected at most, and `below` how many lines are shown after the last. -/
def scan (w : Wanted) (below : Nat) : (most : Option Nat) → (left number offset : Nat) →
    List (String × Bool) → List Shown × Bool
  | _, _, _, _, [] => ([], false)
  | most, left, number, offset, (line, ended) :: rest =>
    let next := offset + line.length + (if ended then 1 else 0)
    let add (selected : Bool) (found : List Shown × Bool) : List Shown × Bool :=
      (⟨number, offset, line, selected⟩ :: found.1, found.2)
    match most with
    | some 0 =>
      match left with
      | 0 => ([], true)
      | left + 1 => add false (scan w below (some 0) left (number + 1) next rest)
    | most =>
      let selected := w.selects line
      let most := if selected then most.map (· - 1) else most
      if selected then add true (scan w below most below (number + 1) next rest)
      else add false (scan w below most left (number + 1) next rest)

/-- The lines that are shown: those that are selected, and some around them. -/
def around (above below : Nat) (lines : List Shown) : List Shown :=
  let forth := lines.foldl
    (fun (state : List (Shown × Bool) × Nat) l =>
      let left := if l.selected then below + 1 else state.2
      ((l, left != 0) :: state.1, left - 1)) ([], 0)
  (forth.1.foldl
    (fun (state : List Shown × Nat) (l, kept) =>
      let left := if l.selected then above + 1 else state.2
      (if kept || left != 0 then l :: state.1 else state.1, left - 1)) ([], 0)).1

/-- What the search of an input is for. -/
inductive Purpose where
  | lines
  | count
  | names (found : Bool)
  | status
deriving DecidableEq

/-- The result of searching an input. -/
structure SearchResult where
  /-- What is printed. -/
  text     : String
  any      : Bool
  /-- How much of the input was needed, if not all of it. -/
  taken    : Option Nat
  /-- Whether it was no text, and lines of it would have been shown. -/
  isBinary : Bool

/-- Searches a text. -/
def searchText (a : Arguments) (s : Style) (w : Wanted) (purpose : Purpose) (most : Option Nat)
    (name text : String) : SearchResult :=
  let kind := (a.last? 'β').getD "binary"
  let isBinary := text.contains '\x00' && s.ending = '\n' && !(a.has 'a' || kind = "text")
  if isBinary && (a.has 'I' || kind = "without-match") then
    ⟨if purpose = .count then (if s.titled then s.title name ":" else "") ++ "0\n" else "", false, none,
      false⟩
  else
    let mark := String.ofList [s.ending]
    let pieces := match (text.splitOn mark).reverse with
      | ""   :: rest => (rest.map (·, true)).reverse
      | last :: rest => ((last, false) :: rest.map (·, true)).reverse
      | []           => []
    let stops := match purpose with
      | .names _ | .status => true
      | _                  => false
    let (lines, cut) := scan w s.below (if stops then (if most = some 0 then some 0 else some 1) else most)
      0 1 0 pieces
    let selected := lines.filter (·.selected)
    let any := !selected.isEmpty
    let ends := (selected.getLast?.map fun l => l.offset + l.line.length + 1).getD 0
    let taken := if cut || (stops && any) then some (min ends text.length) else none
    let out := match purpose with
      | .status => ""
      | .names found =>
        if any = found then s.name name ++ (if s.zeroNames then "\x00" else "\n") else ""
      | .count => (if s.titled then s.title name ":" else "") ++ toString selected.length ++ "\n"
      | .lines =>
        if isBinary then "" else String.join (s.printed w name none (around s.above s.below lines))
    ⟨out, any, taken, isBinary && any && purpose = .lines⟩

/-! ### Inputs -/

/-- Which files are searched, by patterns for their names. -/
structure Choice where
  /-- Patterns in the order in which they were given, each with whether it includes. -/
  files       : List (Bool × String)
  directories : List String

/-- Whether a pattern fits a name, or the end of it behind a slash. -/
def fitsName (isOperand : Bool) (pattern name : String) : Bool :=
  let fits (s : String) : Bool := Pattern.isMatch (Pattern.ofString pattern) s.toList
  fits name || (isOperand && (tails name.toList).any fun cs => fits (String.ofList cs))
where
  /-- What follows the slashes of a name. -/
  tails : List Char → List (List Char)
    | []        => []
    | '/' :: cs => cs :: tails cs
    | _ :: cs   => tails cs

/-- Whether a file is left out. -/
def Choice.skips (c : Choice) (isOperand : Bool) (name : String) : Bool :=
  match (c.files.filter fun (_, p) => fitsName isOperand p name).getLast?, c.files.head? with
  | some (includes, _), _     => !includes
  | none, some (includes, _)  => includes
  | none, none                => false

/-- Whether a directory is left out. -/
def Choice.skipsDirectory (c : Choice) (isOperand : Bool) (name : String) : Bool :=
  c.directories.any fun p => fitsName isOperand (trimSlashes p) name

/-- The names of the files below a directory. -/
def filesBelow (c : Choice) (follows : Bool) : (fuel : Nat) → String → Path → Act (List String)
  | 0, _, _ => return []
  | fuel + 1, name, path => do
    let v ← volume
    let parts ← (← namesIn path).mapM fun entry => do
      let inside := if name = "" then entry else below name entry
      let p := pathIn v path entry
      let found ← match kindAt? v p with
        | some .link =>
          if follows then
            match v.resolve true path (toWorld entry) with
            | .ok q    => pure ((kindAt? v q).map (·, q))
            | .error _ => pure none
          else pure none
        | some kind => pure (some (kind, p))
        | none      => pure none
      match found with
      | some (.directory, p) =>
        if c.skipsDirectory false entry then return [] else filesBelow c follows fuel inside p
      | some (.file, _) => return if c.skips false entry then [] else [inside]
      | _ => return []
    return parts.flatten

/-- Whether a name leads to the file that the standard output goes to. -/
def isOutput (name : String) : Act Bool := do
  match ← description? 1, ← resolve true name with
  | some (_, ⟨.file path, _, _, _, _⟩), .ok other =>
    return path = other
  | _, _ => return false

/-- The width that an option asks for. -/
def contextOf (a : Arguments) (letter : Char) : Except String Nat :=
  let digits := digitsOf [] a.options
  let general := match (a.options.filter fun o => o.1 = 'C' || o.1.isDigit).getLast? with
    | some ('C', s) => some s
    | some _        => some (String.ofList digits)
    | none          => none
  match (a.last? letter).or general with
  | none => .ok 0
  | some s =>
    match s.toNat? with
    | some n => .ok n
    | none   => .error (s ++ ": invalid context length argument")
where
  /-- The digits that stand together as the last ones among options. -/
  digitsOf (held : List Char) : List (Char × String) → List Char
    | []             => held
    | (c, _) :: more =>
      if c.isDigit then digitsOf (held ++ [c]) more
      else if more.any (·.1.isDigit) then digitsOf [] more else held

/-- Reads an input for a search, which may need only a part of it. -/
def searchInput (name : String) (search : String → SearchResult) : Act (Except String SearchResult) := do
  if name != "-" then return (← readFile name).map search
  match ← peekAll? 0 with
  | .error fault => return .error fault.reason
  | .ok text =>
    let found := search text
    takePart 0 (found.taken.getD text.length) found.taken.isNone
    return .ok found

/-- The texts that are searched for, from options and the first operand. -/
def patternsOf (u : Usage) (a : Arguments) : Act (Except Nat (List String)) := do
  let mut texts : List String := []
  for (letter, s) in a.options do
    if letter = 'e' then texts := texts ++ s.splitOn "\n"
    else if letter = 'f' then
      match ← readInput s with
      | .ok text => texts := texts ++ linesOf text
      | .error reason =>
        u.complain (s ++ ": " ++ reason)
        return .error u.misuse
  if a.has 'e' || a.has 'f' then return .ok texts
  return .ok ((a.rest.headD "").splitOn "\n")

/-- Says how `grep` is used. -/
def grepHelp (u : Usage) : Act Nat := do
  complain "Usage: grep [OPTION]... PATTERNS [FILE]..."
  complain u.hint
  return u.misuse

/-- How lines are shown, by options. -/
def Style.ofArguments (a : Arguments) (several : Bool) : Except String Style := do
  let around ← contextOf a 'C'
  let above ← if a.has 'B' then contextOf a 'B' else .ok around
  let below ← if a.has 'A' then contextOf a 'A' else .ok around
  let titles := ((a.options.map (·.1)).filter ['h', 'H'].contains).getLast?
  let separator := (a.options.filter fun o => o.1 = 'γ' || o.1 = 'ν').getLast?
  let colours := ["always", "yes", "force"]
  return {
    titled    := match titles with | some 'H' => true | some _ => false | none => several
    zeroNames := a.has 'Z', numbers := a.has 'n', offsets := a.has 'b', tabs := a.has 'T'
    ending    := if a.has 'z' then '\x00' else '\n'
    onlyParts := a.has 'o'
    coloured  := (a.last? 'κ').any colours.contains
    above, below
    separator := match separator with
      | some ('γ', s) => some s
      | some _        => none
      | none          => some "--" }

/-- Searches inputs for lines. -/
def grepWith (u : Usage) (a : Arguments) : Act Nat := do
  let given := a.has 'e' || a.has 'f'
  if !given && a.rest.isEmpty then return ← grepHelp u
  let operands := if given then a.rest else a.rest.drop 1
  let recursive := a.has 'r' || a.has 'R' || a.last? 'd' = some "recurse"
  let style := Style.ofArguments a (operands.length > 1 || recursive)
  let most := (a.last? 'm').map String.toInt?
  match style, most with
  | .error fault, _ =>
    u.complain fault
    return u.misuse
  | _, some none =>
    u.complain "invalid max count"
    return u.misuse
  | .ok style, most =>
    match ← patternsOf u a with
    | .error status => return status
    | .ok patterns =>
      match wantedOf a patterns with
      | .error fault =>
        u.complain fault
        return u.misuse
      | .ok w =>
        let most := most.bind fun n => n.bind fun n => if n < 0 then none else some n.toNat
        let purpose : Purpose :=
          if a.has 'q' then .status
          else
            match ((a.options.map (·.1)).filter ['l', 'L'].contains).getLast? with
            | some 'l' => .names true
            | some _   => .names false
            | none     => if a.has 'c' then .count else .lines
        let mut excluded : List (Bool × String) := []
        for (letter, s) in a.options do
          if letter = 'ι' || letter = 'ε' then excluded := excluded ++ [(letter == 'ι', s)]
          else if letter = 'φ' then
            match ← readInput s with
            | .ok text => excluded := excluded ++ (linesOf text).map (false, ·)
            | .error reason =>
              u.complain (s ++ ": " ++ reason)
              return u.misuse
        let choice : Choice := ⟨excluded, (a.options.filter (·.1 = 'δ')).map (·.2)⟩
        let mut inputs : List String := []
        for name in if operands.isEmpty then [if recursive then "." else "-"] else operands do
          match ← if name = "-" then pure (.error "") else look true name with
          | .ok (.directory, path) =>
            if choice.skipsDirectory true name && !operands.isEmpty then pure ()
            else if recursive then
              let start := if operands.isEmpty then ""
                else if name.endsWith "/" then trimSlashes name else name
              inputs := inputs ++ (← filesBelow choice (a.has 'R') greatestTreeDepth start path)
            else if a.last? 'd' != some "skip" then inputs := inputs ++ [name]
          | _ => if name = "-" || !choice.skips true name then inputs := inputs ++ [name]
        let mut found := false
        let mut failed := false
        for name in inputs do
          let shown := if name = "-" then (a.last? 'λ').getD "(standard input)" else name
          let isOwn ← if name = "-" || purpose != .lines || most = some 0 || most = some 1 then pure false
            else isOutput name
          if isOwn then
            u.complain (name ++ ": input file is also the output")
            failed := true
          else
            match ← searchInput name (searchText a style w purpose most shown) with
            | .error reason =>
              failed := true
              if !a.has 's' then u.complain (name ++ ": " ++ reason)
            | .ok result =>
              if result.any then
                found := true
                if purpose = .status then return 0
              match ← write 1 result.text with
              | none => pure ()
              | some fault =>
                u.complain ("write error: " ++ fault.reason)
                return u.misuse
              if result.isBinary then u.complain (shown ++ ": binary file matches")
        return if failed then u.misuse else if found then 0 else 1

/-- Searches with an option in front of the others. -/
def grepAs (option : String) : Builtin := fun _ args => do
  match grepUsage.read false ((if option = "" then [] else [option]) ++ args) with
  | .error fault =>
    grepUsage.complain fault
    grepHelp grepUsage
  | .ok a => grepUsage.use (.ok a) (grepWith grepUsage)

end BoardConsole.Shell.Utility
