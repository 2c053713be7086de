import BoardConsole.Shell.Pattern
import BoardConsole.Shell.Arithmetic

/-!
# Shell — Regular expressions

Regular expressions in their basic and their extended form. A match is the leftmost one, and of
those that begin there the longest; a part further left takes as much as it can. `places` lists all
ends that a match can have from a place on, the preferred ones first; `once` leaves only the first of
them, so that it can stand around an expression whose preferred match counts, not the longest.
-/

namespace BoardConsole.Shell

/-- A regular expression. -/
inductive Regex where
  | nothing
  /-- One character in one of these ranges, or in none of them. -/
  | among (negated : Bool) (ranges : List (Char × Char))
  /-- The beginning of the text. -/
  | start
  /-- The end of the text. -/
  | finish
  /-- The beginning of a line in the text. -/
  | lineStart
  /-- The end of a line in the text. -/
  | lineFinish
  /-- A place with a character of a word before it and after it, or without one. -/
  | edge (before after : Option Bool)
  | seq (a b : Regex)
  | alt (a b : Regex)
  | repeat (least : Nat) (most : Option Nat) (r : Regex)
  /-- As few turns as will do. -/
  | few (least : Nat) (most : Option Nat) (r : Regex)
  | group (number : Nat) (r : Regex)
  /-- The text that a group matched. -/
  | back (number : Nat)
  /-- Only the preferred match of these. -/
  | once (r : Regex)
  /-- Whether something follows. -/
  | ahead (holds : Bool) (r : Regex)
  /-- Whether something stands before. -/
  | behind (holds : Bool) (r : Regex)
  /-- The match begins here. -/
  | keep
deriving Repr

namespace Regex

/-! ### Matching -/

/-- A place in a text: the characters before it, last first, what follows, what groups have matched,
and where the match begins. -/
structure Place where
  offset : Nat
  passed : List Char
  rest   : List Char
  groups : List (Nat × List Char)
  begins : Nat
deriving DecidableEq, Repr

/-- The place in front of a text, behind some characters. -/
def Place.first (passed rest : List Char) : Place := ⟨0, passed, rest, [], 0⟩

/-- The character before a place. -/
def Place.before (p : Place) : Option Char := p.passed.head?

/-- The place after one more character. -/
def Place.next (p : Place) (c : Char) (rest : List Char) : Place :=
  { p with offset := p.offset + 1, passed := c :: p.passed, rest }

/-- The places further back, with how far they are. -/
def Place.earlier : (passed rest : List Char) → (far : Nat) → List (Nat × List Char × List Char)
  | [], rest, far          => [(far, [], rest)]
  | c :: passed, rest, far => (far, c :: passed, rest) :: Place.earlier passed (c :: rest) (far + 1)

/-- The place after a text, if that follows. -/
def Place.skip? (anyCase : Bool) : Place → List Char → Option Place
  | p, [] => some p
  | p, c :: cs =>
    match p.rest with
    | d :: rest =>
      if c = d || (anyCase && c.toLower = d.toLower) then
        Place.skip? anyCase (p.next d rest) cs
      else none
    | [] => none

/-- A letter in its other case. -/
def otherCase (c : Char) : Char := if c.isLower then c.toUpper else c.toLower

/-- Whether a character belongs to a word. -/
def isWordChar (c : Option Char) : Bool := c.any isNameChar

/-- The places without those that differ from another only in what groups have matched. -/
def distinct (places : List Place) : List Place :=
  (places.foldl
    (fun (seen, kept) p =>
      if seen.contains p.offset then (seen, kept) else (p.offset :: seen, p :: kept))
    (([] : List Nat), ([] : List Place))).2.reverse

/-- The places that a repetition leads to, those after more turns first. -/
def turns (one : Place → List Place) (least : Nat) (most : Option Nat) :
    (fuel : Nat) → (count : Nat) → Place → List Place
  | 0, _, p => [p]
  | fuel + 1, count, p =>
    let further :=
      if most.any (· ≤ count) then []
      else
        let after := (one p).filter fun q => p.offset < q.offset || count < least
        distinct (after.flatMap (turns one least most fuel (count + 1)))
    if least ≤ count then further ++ [p] else further

/-- The places that a repetition leads to, those after fewer turns first. -/
def fewTurns (one : Place → List Place) (least : Nat) (most : Option Nat) :
    (fuel : Nat) → (count : Nat) → Place → List Place
  | 0, _, p => [p]
  | fuel + 1, count, p =>
    let further :=
      if most.any (· ≤ count) then []
      else
        let after := (one p).filter fun q => p.offset < q.offset || count < least
        distinct (after.flatMap (fewTurns one least most fuel (count + 1)))
    if least ≤ count then p :: further else further

/-- The places that a match can lead to, the preferred ones first. -/
def places (anyCase : Bool) : Regex → Place → List Place
  | nothing, p => [p]
  | among negated ranges, p =>
    match p.rest with
    | c :: rest =>
      let holds (c : Char) : Bool := ranges.any fun (a, b) => a ≤ c && c ≤ b
      if (holds c || (anyCase && holds (otherCase c))) != negated then [p.next c rest] else []
    | [] => []
  | start, p => if p.before.isNone then [p] else []
  | finish, p => if p.rest.isEmpty then [p] else []
  | lineStart, p => if p.before.all (· = '\n') then [p] else []
  | lineFinish, p => if p.rest.head?.all (· = '\n') then [p] else []
  | edge before after, p =>
    let fits := before.all (isWordChar p.before = ·) && after.all (isWordChar p.rest.head? = ·)
    if fits then [p] else []
  | seq a b, p => distinct ((places anyCase a p).flatMap (places anyCase b))
  | alt a b, p => distinct (places anyCase a p ++ places anyCase b p)
  | .repeat least most r, p => distinct (turns (places anyCase r) least most (p.rest.length + least + 1) 0 p)
  | few least most r, p =>
    distinct (fewTurns (places anyCase r) least most (p.rest.length + least + 1) 0 p)
  | group n r, p =>
    (places anyCase r p).map fun q =>
      let text := p.rest.take (q.offset - p.offset)
      { q with groups := (n, text) :: q.groups.filter (·.1 != n) }
  | back n, p =>
    match p.groups.lookup n with
    | some text => (p.skip? anyCase text).toList
    | none      => []
  | once r, p => (places anyCase r p).take 1
  | ahead holds r, p =>
    match places anyCase r p with
    | []     => if holds then [] else [p]
    | q :: _ => if holds then [{ p with groups := q.groups }] else []
  | behind holds r, p =>
    let ends := (Place.earlier p.passed p.rest 0).any fun (far, passed, rest) =>
      (places anyCase r { p with offset := 0, passed, rest }).any (·.offset = far)
    if ends = holds then [p] else []
  | keep, p => [{ p with begins := p.offset }]

/-- A match: what stands before it, what it is, what follows, and what its groups are. -/
structure Match where
  before : List Char
  text   : List Char
  after  : List Char
  groups : List (Nat × List Char)
deriving Repr

/-- The longest of some places; of those the first. -/
def longest (places : List Place) : Option Place :=
  places.foldl
    (fun best p =>
      match best with
      | none   => some p
      | some q => if q.offset < p.offset then some p else some q) none

/-- The match that begins at a place. -/
def matchAt (anyCase : Bool) (r : Regex) (p : Place) : Option Place :=
  longest (places anyCase r p)

/-- The first match at or behind a place in a text, which stands behind some characters, last first. Of
them, some number belong to the text. -/
def findFrom (anyCase : Bool) (r : Regex) : (own : Nat) → (passed rest : List Char) → Option Match
  | own, passed, rest =>
    match matchAt anyCase r (.first passed rest) with
    | some q =>
      some ⟨(passed.take own).reverse ++ rest.take q.begins, (rest.take q.offset).drop q.begins,
        q.rest, q.groups⟩
    | none =>
      match rest with
      | []      => none
      | c :: cs => findFrom anyCase r (own + 1) (c :: passed) cs

/-- The first match in a text behind some characters, which stand last first. -/
def findBehind (anyCase : Bool) (r : Regex) (passed text : List Char) : Option Match :=
  findFrom anyCase r 0 passed text

/-- The first match in a text. -/
def find (anyCase : Bool) (r : Regex) (text : List Char) : Option Match :=
  findBehind anyCase r [] text

/-! ### Reading -/

/-- What is wrong with the text of a regular expression. -/
inductive Fault where
  | openSet
  | badClass
  | badRange
  | openGroup
  | closedGroup
  | openBounds
  | badBounds
  | noOperand
  | badBack
  | openEscape
deriving DecidableEq, Repr

/-- The words for a fault. -/
def Fault.message : Fault → String
  | openSet     => "Unmatched [, [^, [:, [., or [="
  | badClass    => "Invalid character class name"
  | badRange    => "Invalid range end"
  | openGroup   => "Unmatched ( or \\("
  | closedGroup => "Unmatched ) or \\)"
  | openBounds  => "Unmatched \\\x7b"
  | badBounds   => "Invalid content of \\\x7b\\\x7d"
  | noOperand   => "Invalid preceding regular expression"
  | badBack     => "Invalid back reference"
  | openEscape  => "Trailing backslash"

/-- A part of the text of a regular expression. -/
inductive Sign where
  /-- Something that stands for itself. -/
  | atom (r : Regex)
  /-- A star, a plus, a question mark or bounds. -/
  | times (least : Nat) (most : Option Nat)
  | opening
  | closing
  | bar
deriving Repr

/-- The regular expression for one character. -/
def char (c : Char) : Regex := among false [(c, c)]

/-- The regular expression for any character, or any but the end of a line. -/
def anyChar (lines : Bool) : Regex := among true (if lines then [('\n', '\n')] else [])

/-- The ranges of a set up to its closing bracket, and what follows it. -/
def readRanges : (fuel : Nat) → (isFirst : Bool) → List Char →
    Except Fault (List (Char × Char) × List Char)
  | 0, _, _ | _, _, [] => .error .openSet
  | fuel + 1, isFirst, c :: rest =>
    if c = ']' && !isFirst then .ok ([], rest)
    else
      match c, rest with
      | '[', ':' :: rest =>
        let name := rest.takeWhile Char.isAlpha
        match rest.drop name.length, Pattern.classes.lookup (String.ofList name) with
        | ':' :: ']' :: after, some known =>
          (readRanges fuel false after).map fun (ranges, rest) => (known ++ ranges, rest)
        | ':' :: ']' :: _, none => .error .badClass
        | _, _ => .error .openSet
      | c, rest =>
        let (c, rest) := match c, rest with
          | '[', '.' :: d :: '.' :: ']' :: after => (d, after)
          | '[', '=' :: d :: '=' :: ']' :: after => (d, after)
          | _, _ => (c, rest)
        match rest with
        | '-' :: ']' :: _ =>
          (readRanges fuel false rest).map fun (ranges, rest) => ((c, c) :: ranges, rest)
        | '-' :: d :: after =>
          if d < c then .error .badRange
          else (readRanges fuel false after).map fun (ranges, rest) => ((c, d) :: ranges, rest)
        | _ => (readRanges fuel false rest).map fun (ranges, rest) => ((c, c) :: ranges, rest)

/-- The set that begins after an opening bracket, and what follows it. -/
def readSet (lines : Bool) (cs : List Char) : Except Fault (Regex × List Char) :=
  let (negated, cs) := match cs with
    | '^' :: rest => (true, rest)
    | _           => (false, cs)
  let more := if negated && lines then [('\n', '\n')] else []
  (readRanges (cs.length + 1) true cs).map fun (ranges, rest) => (among negated (more ++ ranges), rest)

/-- The greatest number of turns that bounds may ask for. -/
def greatestBound : Nat := 32767

/-- The bounds at the beginning of a text, and what follows their end. -/
def readBounds (ending : List Char) (cs : List Char) :
    Except Fault ((Nat × Option Nat) × List Char) :=
  let first := cs.takeWhile Char.isDigit
  let least := Arithmetic.valueOf 10 first
  let close (bounds : Nat × Option Nat) (rest : List Char) :
      Except Fault ((Nat × Option Nat) × List Char) :=
    if !ending.isPrefixOf rest then .error (if rest.isEmpty then .openBounds else .badBounds)
    else if greatestBound < bounds.1 || bounds.2.any (greatestBound < ·) ||
        bounds.2.any (· < bounds.1) then .error .badBounds
    else .ok (bounds, rest.drop ending.length)
  match cs.drop first.length with
  | ',' :: rest =>
    let last := rest.takeWhile Char.isDigit
    close (least, if last.isEmpty then none else some (Arithmetic.valueOf 10 last))
      (rest.drop last.length)
  | rest => if first.isEmpty then .error .badBounds else close (least, some least) rest

/-- The characters that words have. -/
def wordRanges : List (Char × Char) := [('a', 'z'), ('A', 'Z'), ('0', '9'), ('_', '_')]

/-- The characters that are blank. -/
def blankRanges : List (Char × Char) := [(' ', ' '), ('\t', '\r')]

/-- What a letter after a backslash stands for. -/
def escaped? : Char → Option Regex
  | 'w'  => some (among false wordRanges)
  | 'W'  => some (among true wordRanges)
  | 's'  => some (among false blankRanges)
  | 'S'  => some (among true blankRanges)
  | 'b'  => some (alt (edge (some false) (some true)) (edge (some true) (some false)))
  | 'B'  => some (alt (edge (some false) (some false)) (edge (some true) (some true)))
  | '<'  => some (edge (some false) (some true))
  | '>'  => some (edge (some true) (some false))
  | '\'' => some finish
  | '\u0060' => some start
  | _    => none

/-- Whether something can be repeated after a sign. -/
def isOperand : Option Sign → Bool
  | none | some .opening | some .bar                => false
  | some (.atom .start) | some (.atom .lineStart)   => false
  | some _                                          => true

/-- How texts spell regular expressions. -/
structure Dialect where
  /-- Whether parentheses, braces, bars, pluses and question marks have a meaning without a
  backslash. -/
  extended : Bool := false
  /-- Whether a caret and a dollar sign stand for the ends of lines too; dots and negated sets do not
  stand for the end of a line then. -/
  lines    : Bool := false
  /-- Whether signs that make no sense stand for themselves. -/
  lenient  : Bool := false

/-- The signs of a text, after one before them. -/
def signs (d : Dialect) : (fuel : Nat) → (before : Option Sign) → List Char →
    Except Fault (List Sign)
  | 0, _, _ | _, _, [] => .ok []
  | fuel + 1, before, c :: rest =>
    let extended := d.extended
    let repeats := match before with
      | some (.times _ _) => !d.lenient
      | _                 => false
    let emit (sign : Sign) (rest : List Char) : Except Fault (List Sign) :=
      (signs d fuel (some sign) rest).map (sign :: ·)
    let begins := match before with
      | none | some .opening | some .bar => true
      | _                                => false
    match c, rest with
    | '\\', [] => .error .openEscape
    | '\\', d :: rest =>
      if !extended && d = '(' then emit .opening rest
      else if !extended && d = ')' then emit .closing rest
      else if !extended && d = '|' then emit .bar rest
      else if !extended && d = '\x7b' then
        if begins || repeats then .error .noOperand
        else do
          let ((least, most), rest) ← readBounds ['\\', '\x7d'] rest
          emit (.times least most) rest
      else if !extended && (d = '+' || d = '?') then
        if begins then emit (.atom (char d)) rest
        else emit (if d = '+' then .times 1 none else .times 0 (some 1)) rest
      else if d.isDigit && d != '0' then emit (.atom (.back (d.toNat - 48))) rest
      else emit (.atom ((escaped? d).getD (char (if d = 'n' then '\n' else d)))) rest
    | '[', rest => do
      let (r, rest) ← readSet d.lines rest
      emit (.atom r) rest
    | '.', rest => emit (.atom (anyChar d.lines)) rest
    | '*', rest =>
      if repeats && !extended then .error .noOperand
      else if isOperand before || (extended && !begins) then emit (.times 0 none) rest
      else if extended && !d.lenient then .error .noOperand
      else if extended then signs d fuel before rest
      else emit (.atom (char '*')) rest
    | '^', rest =>
      if extended || begins then emit (.atom (if d.lines then .lineStart else .start)) rest
      else emit (.atom (char '^')) rest
    | '$', rest =>
      let ends := match rest with
        | []                            => true
        | '\\' :: ')' :: _ | '\\' :: '|' :: _ => !extended
        | _                             => false
      let anchor := if d.lines then lineFinish else finish
      emit (.atom (if extended || ends then anchor else char '$')) rest
    | c, rest =>
      if !extended then emit (.atom (char c)) rest
      else if c = '(' then emit .opening rest
      else if c = ')' then emit .closing rest
      else if c = '|' then emit .bar rest
      else if c = '+' || c = '?' then
        if begins then (if d.lenient then signs d fuel before rest else .error .noOperand)
        else emit (if c = '+' then .times 1 none else .times 0 (some 1)) rest
      else if c = '\x7b' && begins && !d.lenient then .error .noOperand
      else if c = '\x7b' && !begins then
        match readBounds ['\x7d'] rest with
        | .ok ((least, most), rest) => emit (.times least most) rest
        | .error .badBounds =>
          if !d.lenient || (rest.head?.any Char.isDigit && rest.contains '\x7d') then .error .badBounds
          else emit (.atom (char c)) rest
        | .error fault => if d.lenient then emit (.atom (char c)) rest else .error fault
      else emit (.atom (char c)) rest

/-- What is read: a regular expression, the signs after it, and how many groups have begun. -/
abbrev Read := Except Fault (Regex × List Sign × Nat)

/-- Something with the repetitions after it, and the signs after those. -/
def withTimes (r : Regex) : List Sign → Regex × List Sign
  | .times least most :: s => withTimes (.repeat least most r) s
  | s                      => (r, s)

mutual

/-- Reads alternatives. -/
def readAlt (lenient deep : Bool) : (fuel : Nat) → (groups : Nat) → List Sign → Read
  | 0, groups, s => .ok (.nothing, s, groups)
  | fuel + 1, groups, s => do
    let (r, s, groups) ← readSeq lenient deep fuel groups .nothing s
    match s with
    | .bar :: s =>
      let (t, s, groups) ← readAlt lenient deep fuel groups s
      return (.alt r t, s, groups)
    | s => return (r, s, groups)

/-- Reads what follows each other, after something. -/
def readSeq (lenient deep : Bool) : (fuel : Nat) → (groups : Nat) → Regex → List Sign → Read
  | 0, groups, r, s => .ok (r, s, groups)
  | fuel + 1, groups, r, s =>
    let join (t : Regex) : Regex := match r with | .nothing => t | r => .seq r t
    match s with
    | [] | .bar :: _ => .ok (r, s, groups)
    | .closing :: rest =>
      if deep then .ok (r, s, groups)
      else if lenient then readSeq lenient deep fuel groups (join (char ')')) rest
      else .error .closedGroup
    | .atom t :: s =>
      let (t, s) := withTimes t s
      readSeq lenient deep fuel groups (join t) s
    | .times _ _ :: s => readSeq lenient deep fuel groups r s
    | .opening :: s => do
      let number := groups + 1
      let (t, s, groups) ← readAlt lenient true fuel number s
      match s with
      | .closing :: s =>
        let (t, s) := withTimes (.group number t) s
        readSeq lenient deep fuel groups (join t) s
      | _ => .error .openGroup

end

/-- The groups that a regular expression refers back to. -/
def backs : Regex → List Nat
  | .back n               => [n]
  | .seq a b | .alt a b   => backs a ++ backs b
  | .repeat _ _ r | .few _ _ r | .group _ r | .once r | .ahead _ r | .behind _ r => backs r
  | _                     => []

/-- The regular expression that a text spells. -/
def ofText (d : Dialect) (text : String) : Except Fault Regex := do
  let all ← signs d (text.length + 1) none text.toList
  let (r, _, groups) ← readAlt (d.extended && d.lenient) false (2 * all.length + 2) 0 all
  if (backs r).any (groups < ·) then throw .badBack
  return r

/-- How many groups a regular expression has. -/
def groups : Regex → Nat
  | .seq a b | .alt a b => max (groups a) (groups b)
  | .repeat _ _ r | .few _ _ r | .once r | .ahead _ r | .behind _ r => groups r
  | .group n r          => max n (groups r)
  | _                   => 0

/-- A regular expression with no character of a word next to it. -/
def asWord (r : Regex) : Regex := .seq (.edge (some false) none) (.seq r (.edge none (some false)))

/-- A regular expression for whole texts. -/
def asWhole (r : Regex) : Regex := .seq .start (.seq r .finish)

/-- The regular expression for a text itself. -/
def literal (text : String) : Regex :=
  text.toList.foldr (fun c r => .seq (char c) r) .nothing

end Regex

end BoardConsole.Shell
