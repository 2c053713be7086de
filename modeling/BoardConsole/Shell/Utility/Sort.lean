import BoardConsole.Shell.Format
import BoardConsole.Shell.Utility.Paths
import BoardConsole.Shell.Utility.Text
import BoardConsole.Shell.Utility.Version

/-!
# Shell — Sorting lines

Lines are compared by some keys, each a part of the line that is compared in some way, and at last
as a whole. Sorting keeps the order of what compares equal.
-/

namespace BoardConsole.Shell.Utility

open Act

def sortUsage : Usage :=
  { program := "sort", letters := "bcCdfghik:mMno:rRsS:t:T:uVzσ:χ::φ:πβ:κ:δ", misuse := 2
    names := [("reverse", 'r'), ("numeric-sort", 'n'), ("unique", 'u'), ("key", 'k'), ("stable", 's'),
      ("field-separator", 't'), ("output", 'o'), ("ignore-case", 'f'), ("check", 'χ'),
      ("ignore-leading-blanks", 'b'), ("human-numeric-sort", 'h'), ("general-numeric-sort", 'g'),
      ("merge", 'm'), ("dictionary-order", 'd'), ("ignore-nonprinting", 'i'), ("month-sort", 'M'),
      ("version-sort", 'V'), ("random-sort", 'R'), ("zero-terminated", 'z'), ("sort", 'σ'),
      ("files0-from", 'φ'), ("parallel", 'β'), ("buffer-size", 'S'), ("temporary-directory", 'T'),
      ("compress-program", 'κ'), ("debug", 'δ')] }

/-! ### Numbers -/

/-- A decimal number: `mantissa / 10 ^ places`. -/
structure DecimalNumber where
  mantissa : Int
  places   : Nat
deriving DecidableEq, Repr

/-- The order of two numbers. -/
def DecimalNumber.compare (a b : DecimalNumber) : Ordering :=
  Ord.compare (a.mantissa * Nat.pow 10 b.places) (b.mantissa * Nat.pow 10 a.places)

/-- A blank between fields. -/
def isFieldBlank (c : Char) : Bool := c = ' ' || c = '\t' || c = '\n'

/-- The number at the beginning of a text and what follows it; zero where there is none. -/
def leadingNumber (cs : List Char) : DecimalNumber × List Char :=
  let cs := cs.dropWhile isFieldBlank
  let (negative, cs) := match cs with
    | '-' :: rest => (true, rest)
    | _           => (false, cs)
  let whole := cs.takeWhile Char.isDigit
  let rest := cs.drop whole.length
  let (fraction, rest) := match rest with
    | '.' :: more =>
      let fraction := more.takeWhile Char.isDigit
      (fraction, more.drop fraction.length)
    | _ => ([], rest)
  let n : Int := Arithmetic.valueOf 10 (whole ++ fraction)
  (⟨if negative then -n else n, fraction.length⟩, rest)

/-- The rank of the unit after a number. -/
def unitRank (rest : List Char) : Nat :=
  match rest with
  | c :: _ =>
    ((unitLetters.findIdx? (· = if c = 'k' then 'K' else c)).map (· + 1)).getD 0
  | []     => 0

/-- The names of the months. -/
def monthWords : List String :=
  ["JAN", "FEB", "MAR", "APR", "MAY", "JUN", "JUL", "AUG", "SEP", "OCT", "NOV", "DEC"]

/-- The number of the month that a text begins with; zero where it begins with none. -/
def leadingMonth (cs : List Char) : Nat :=
  let name := String.ofList (((cs.dropWhile isFieldBlank).take 3).map Char.toUpper)
  ((monthWords.findIdx? (· = name)).map (· + 1)).getD 0

/-! ### Keys -/

/-- What a part of a line is compared as. -/
inductive KeyValue where
  | text (cs : List Char)
  | number (n : DecimalNumber)
  /-- A number with a unit. -/
  | scaled (rank : Int) (n : DecimalNumber)
  /-- A fraction; there may be none. -/
  | fraction (x : Option Float)
  | month (n : Nat)
  | version (cs : List Char)

/-- The order of two values of one sort. What is no number comes first, and then what is none of the
numbers that have an order. -/
def KeyValue.compare : KeyValue → KeyValue → Ordering
  | text a, text b           => if a = b then .eq else if a < b then .lt else .gt
  | number a, number b       => a.compare b
  | scaled r a, scaled s b   => (Ord.compare r s).then (a.compare b)
  | fraction none, fraction none     => .eq
  | fraction none, _                 => .lt
  | fraction (some _), fraction none => .gt
  | fraction (some a), fraction (some b) =>
    if a < b then .lt else if b < a then .gt else if a == b then .eq
    else if b == b then .lt else if a == a then .gt else .eq
  | month a, month b         => Ord.compare a b
  | version a, version b     => Version.compareNames a b
  | _, _                     => .eq

/-- What a part of a line is compared as in the way that options ask for. -/
def KeyValue.ofText (options : List Char) (cs : List Char) : KeyValue :=
  let kept (c : Char) : Bool :=
    (!options.contains 'd' || c.isAlphanum || isFieldBlank c) &&
      (!options.contains 'i' || (' ' ≤ c && c ≤ '~'))
  let cs := if options.contains 'd' || options.contains 'i' then cs.filter kept else cs
  let cs := if options.contains 'f' then cs.map Char.toUpper else cs
  if options.contains 'n' then .number (leadingNumber cs).1
  else if options.contains 'g' then
    let cs := cs.dropWhile Arithmetic.isBlank
    let (negative, cs) := takeSign cs
    .fraction ((Spelled.read? cs).map fun x => if negative then -x.1.toFloat else x.1.toFloat)
  else if options.contains 'h' then
    let (n, rest) := leadingNumber cs
    let rank : Int := unitRank rest
    .scaled (if n.mantissa < 0 then -rank else if n.mantissa = 0 then 0 else rank) n
  else if options.contains 'M' then .month (leadingMonth cs)
  else if options.contains 'V' then .version cs
  else .text cs

/-- A part of a line that is compared. -/
structure SortKey where
  /-- The field and the character in it where the part begins, from zero. -/
  start       : Nat × Nat
  /-- Whether the characters are counted behind blanks there. -/
  startBlanks : Bool
  /-- The last field, from zero, and how many characters of it belong to the part, all if none is
  said; without a field the part goes on to the end. -/
  finish      : Option (Nat × Nat)
  /-- Whether the characters are counted behind blanks there. -/
  finishBlanks : Bool
  options     : List Char

/-- What follows the first fields of a line, and the characters that are passed. With a separator,
`past` says whether the last one is passed too. -/
def skipFields (separator : Option Char) (past : Bool) : (count : Nat) → (passed : Nat) → List Char →
    Nat × List Char
  | 0, passed, cs => (passed, cs)
  | _, passed, [] => (passed, [])
  | count + 1, passed, cs =>
    match separator with
    | some c =>
      let field := cs.takeWhile (· != c)
      match cs.drop field.length with
      | []        => (passed + field.length, [])
      | d :: rest =>
        if count = 0 && !past then (passed + field.length, d :: rest)
        else skipFields separator past count (passed + field.length + 1) rest
    | none =>
      let blanks := cs.takeWhile isFieldBlank
      let field := (cs.drop blanks.length).takeWhile (!isFieldBlank ·)
      let n := blanks.length + field.length
      skipFields separator past count (passed + n) (cs.drop n)

/-- Where blanks end. -/
def skipBlanks (isSkipped : Bool) (place : Nat × List Char) : Nat × List Char :=
  if isSkipped then
    let blanks := place.2.takeWhile isFieldBlank
    (place.1 + blanks.length, place.2.drop blanks.length)
  else place

/-- The part of a line that a key compares. -/
def SortKey.part (k : SortKey) (separator : Option Char) (cs : List Char) : List Char :=
  let (first, rest) := skipBlanks k.startBlanks (skipFields separator true k.start.1 0 cs)
  let first := first + min k.start.2 rest.length
  match k.finish with
  | none => cs.drop first
  | some (field, 0) => (cs.take (skipFields separator false (field + 1) 0 cs).1).drop first
  | some (field, chars) =>
    let (last, rest) := skipBlanks k.finishBlanks (skipFields separator true field 0 cs)
    (cs.take (last + min chars rest.length)).drop first

/-- The letters that say how parts are compared. -/
def orderLetters : List Char := ['b', 'd', 'f', 'g', 'h', 'i', 'M', 'n', 'R', 'r', 'V']

/-- The number that a text begins with, and what follows it. -/
def keyCount (what : String) (cs : List Char) : Except String (Nat × List Char) :=
  let digits := cs.takeWhile Char.isDigit
  if digits.isEmpty then
    .error (what ++ ": invalid count at start of " ++ cited (String.ofList cs))
  else .ok (Arithmetic.valueOf 10 digits, cs.drop digits.length)

/-- The number behind a point, if there is one, and what follows it. -/
def keyPoint (cs : List Char) : Except String (Option Nat × List Char) :=
  match cs with
  | '.' :: rest => (keyCount "invalid number after '.'" rest).map fun (n, rest) => (some n, rest)
  | cs          => .ok (none, cs)

/-- The key that a text stands for. -/
def SortKey.ofText (s : String) : Except String SortKey := do
  let unfit {α : Type} (why : String) : Except String α :=
    .error (why ++ ": invalid field specification " ++ cited s)
  let (field, rest) ← keyCount "invalid number at field start" s.toList
  if field = 0 then unfit "field number is zero"
  let (char, rest) ← keyPoint rest
  if char = some 0 then unfit "character offset is zero"
  let own := rest.takeWhile orderLetters.contains
  let start := (field - 1, (char.getD 1) - 1)
  match rest.drop own.length with
  | [] => return ⟨start, own.contains 'b', none, false, own⟩
  | ',' :: more =>
    let (last, rest) ← keyCount "invalid number after ','" more
    if last = 0 then unfit "field number is zero"
    let (char, letters) ← keyPoint rest
    if !letters.all orderLetters.contains then unfit "stray character in field spec"
    return ⟨start, own.contains 'b', some (last - 1, char.getD 0), letters.contains 'b', own ++ letters⟩
  | _ => unfit "stray character in field spec"

/-- A place of an older form, counted from zero: a field, a character in it, and letters. -/
def oldPlace? (cs : List Char) : Option (Nat × Nat × List Char) :=
  match keyCount "" cs with
  | .error _ => none
  | .ok (field, rest) =>
    match keyPoint rest with
    | .error _ => none
    | .ok (char, letters) =>
      if letters.all orderLetters.contains then some (field, char.getD 0, letters) else none

/-- Arguments in which keys of an older form, a plus and a minus with a place each, stand as arguments
of `-k`. -/
def withOldKeys : List String → List String
  | [] => []
  | "--" :: rest => "--" :: rest
  | word :: rest =>
    let place := match word.toList with
      | '+' :: cs => oldPlace? cs
      | _         => none
    match place with
    | none => word :: withOldKeys rest
    | some (field, char, letters) =>
      let start := toString (field + 1) ++ "." ++ toString (char + 1) ++ String.ofList letters
      let finish := match rest with
        | next :: _ =>
          match next.toList with
          | '-' :: cs => oldPlace? cs
          | _         => none
        | [] => none
      match finish, rest with
      | some (last, end_, letters), _ :: rest =>
        let last := if end_ = 0 then max last 1 else last + 1
        ("-k" ++ start ++ "," ++ toString last ++ "." ++ toString end_ ++ String.ofList letters) ::
          withOldKeys rest
      | _, rest => ("-k" ++ start) :: withOldKeys rest

/-- What lines are sorted by. -/
structure SortOrder where
  separator : Option Char
  keys      : List SortKey
  options   : List Char
  /-- Whether lines that compare equal are compared as a whole. -/
  whole     : Bool

/-- A line with what it is compared by. -/
structure SortLine where
  text   : String
  values : List KeyValue

/-- A line with its values. -/
def SortOrder.prepare (o : SortOrder) (line : String) : SortLine :=
  match o.keys with
  | [] =>
    if o.options.all (· = 'r') then ⟨line, []⟩
    else
      let cs := line.toList
      let cs := if o.options.contains 'b' then cs.dropWhile isFieldBlank else cs
      ⟨line, [.ofText o.options cs]⟩
  | keys => ⟨line, keys.map fun k => .ofText k.options (k.part o.separator line.toList)⟩

/-- The order of two texts. -/
def compareTexts (a b : String) : Ordering := if a < b then .lt else if b < a then .gt else .eq

/-- An order, turned round where options say so. -/
def turned (options : List Char) (order : Ordering) : Ordering :=
  if options.contains 'r' then order.swap else order

/-- The order of two lines by their keys. -/
def SortOrder.byKeys (o : SortOrder) (a b : SortLine) : Ordering :=
  match o.keys, a.values, b.values with
  | [], [], []             => turned o.options (compareTexts a.text b.text)
  | [], x :: _, y :: _     => turned o.options (x.compare y)
  | keys, xs, ys =>
    ((keys.zip (xs.zip ys)).foldl
      (fun order (k, x, y) =>
        match order with
        | .eq => turned k.options (x.compare y)
        | o   => o) .eq)

/-- The order of two lines. -/
def SortOrder.compare (o : SortOrder) (a b : SortLine) : Ordering :=
  match o.byKeys a b with
  | .eq => if o.whole then turned o.options (compareTexts a.text b.text) else .eq
  | order => order

/-- Lines without those that compare equal to the one in front of them. -/
def SortOrder.withoutEqual (o : SortOrder) (lines : List SortLine) : List SortLine :=
  (lines.foldl
    (fun kept line =>
      match kept with
      | last :: _ => if o.byKeys last line = .eq then kept else line :: kept
      | []        => [line]) []).reverse

/-- The first line that is out of order, with its number. -/
def SortOrder.disorder? (o : SortOrder) (strict : Bool) :
    (number : Nat) → List SortLine → Option (Nat × String)
  | n, a :: b :: rest =>
    let order := o.compare a b
    if order = .gt || (strict && order = .eq) then some (n + 1, b.text)
    else o.disorder? strict (n + 1) (b :: rest)
  | _, _ => none

/-- Texts that are sorted each, as one: the least of their first lines comes next. -/
def SortOrder.mergeAll (o : SortOrder) (texts : List (List SortLine)) : List SortLine :=
  texts.foldl (fun merged text => List.merge merged text fun x y => o.compare x y != .gt) []

/-- The orders of options that exclude each other. -/
def clashing (options : List Char) : List Char :=
  let sorts := ['g', 'h', 'M', 'n'].filter options.contains
  let others := if options.contains 'V' || options.contains 'R' then ['V'] else []
  let skips := if options.contains 'd' || options.contains 'i' then ['d'] else []
  if 1 < sorts.length + (others ++ skips).length then
    (['d', 'g', 'h', 'i', 'M', 'n', 'R', 'V'].filter options.contains)
  else []

/-- Why arguments are refused: what is wrong, or the option, its word, and those that are known. -/
inductive SortFault where
  | plain (message : String)
  | word (option word : String) (known : List (List String))

/-- The orders that have names. -/
def sortNames : List (String × Char) :=
  [("general-numeric", 'g'), ("human-numeric", 'h'), ("month", 'M'), ("numeric", 'n'), ("random", 'R'),
   ("version", 'V')]

/-- How lines are checked: only whether they are in order, or with a word about where they are not. -/
def checkNames : List (String × Char) := [("quiet", 'C'), ("silent", 'C'), ("diagnose-first", 'c')]

/-- The letters of the checks that the arguments ask for. -/
def checksOf (a : Arguments) : Except SortFault (List Char) := do
  let words := (a.options.filter (·.1 = 'χ')).map (·.2)
  let named ← words.mapM fun word =>
    if word = "" then pure 'c' else
      match wordMeant? checkNames word with
      | some c => pure c
      | none   => throw (.word "--check" word [["quiet", "silent"], ["diagnose-first"]])
  let kinds := named ++ (a.options.map (·.1)).filter fun c => c = 'c' || c = 'C'
  if kinds.contains 'c' && kinds.contains 'C' then throw (.plain "options '-cC' are incompatible")
  return kinds

/-- The order that arguments ask for. -/
def SortOrder.ofArguments (a : Arguments) : Except SortFault SortOrder := do
  let named ← match a.last? 'σ' with
    | none => pure []
    | some word =>
      match wordMeant? sortNames word with
      | some c => pure [c]
      | none   => throw (.word "--sort" word (sortNames.map fun n => [n.1]))
  let options := named ++ (a.options.map (·.1)).filter orderLetters.contains
  let texts := (a.options.filter (·.1 = 'k')).map (·.2)
  let keys ← texts.mapM fun s =>
    match SortKey.ofText s with
    | .ok k => pure (if k.options.isEmpty then
        let b := options.contains 'b'
        { k with options, startBlanks := b, finishBlanks := b } else k)
    | .error message => throw (.plain message)
  for list in options :: keys.map (·.options) do
    let bad := clashing list
    if !bad.isEmpty then throw (.plain ("options '-" ++ String.ofList bad ++ "' are incompatible"))
  let separators ← ((a.options.filter (·.1 = 't')).map (·.2)).mapM fun s =>
    match s, s.toList with
    | "\\0", _ => pure '\x00'
    | _, [c]   => pure c
    | _, []    => throw (.plain "empty tab")
    | s, _     => throw (.plain ("multi-character tab " ++ cited s))
  if 1 < separators.eraseDups.length then throw (.plain "incompatible tabs")
  return ⟨separators.head?, keys, options, !a.has 's' && !a.has 'u'⟩

/-- Sorts lines. -/
def sort : Builtin := fun _ args => sortUsage.run (withOldKeys args) fun a => do
  match do return (← checksOf a, ← SortOrder.ofArguments a) with
  | .error (.plain message) =>
    sortUsage.complain message
    return sortUsage.misuse
  | .error (.word option word known) =>
    let _ ← refuseWordAmong sortUsage option word known
    return sortUsage.misuse
  | .ok (kinds, o) =>
    let ending := if a.has 'z' then "\x00" else "\n"
    let linesIn (text : String) : List String :=
      match (text.splitOn ending).reverse with
      | "" :: rest => rest.reverse
      | parts      => parts.reverse
    let silent := kinds.contains 'C'
    let checks := !kinds.isEmpty
    if checks && 1 < a.rest.length then
      sortUsage.complain ("extra operand " ++ cited (a.rest.getD 1 "") ++ " not allowed with -c")
      return sortUsage.misuse
    let mut texts : List (List SortLine) := []
    for name in if a.rest.isEmpty then ["-"] else a.rest do
      match ← readInput name with
      | .ok text => texts := (linesIn text).map o.prepare :: texts
      | .error reason =>
        let what := if reason = PathFault.isADirectory.reason then "read failed: " else "cannot read: "
        sortUsage.complain (what ++ shownName name ++ ": " ++ reason)
        return sortUsage.misuse
    texts := texts.reverse
    if checks then
      match o.disorder? (a.has 'u') 1 texts.flatten with
      | none => return 0
      | some (n, line) =>
        if !silent then
          sortUsage.complain (a.rest.headD "-" ++ ":" ++ toString n ++ ": disorder: " ++ line)
        return 1
    let sorted :=
      if a.has 'm' then o.mergeAll texts
      else texts.flatten.mergeSort fun x y => o.compare x y != .gt
    let sorted := if a.has 'u' then o.withoutEqual sorted else sorted
    let text := String.join (sorted.map fun line => line.text ++ ending)
    match a.last? 'o' with
    | none => printChecked "sort" text
    | some name =>
      match ← writeFile name text false with
      | .ok () => return 0
      | .error reason =>
        sortUsage.complain ("open failed: " ++ shownName name ++ ": " ++ reason)
        return sortUsage.misuse

end BoardConsole.Shell.Utility
