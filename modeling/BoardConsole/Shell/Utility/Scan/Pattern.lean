import BoardConsole.Shell.Regex

/-!
# Shell — Regular expressions of scanning programs

The form in which these programs write regular expressions: like the extended one, but a backslash
has its meaning in a set too, braces stand for themselves, and a part that is empty is refused.
-/

namespace BoardConsole.Shell.Scan

/-! ### Escapes -/

/-- The character that stands behind a backslash, and what follows it; nothing where what follows has
no meaning of its own. -/
def escape? : List Char → Option (Char × List Char)
  | '"' :: r  => some ('"', r)
  | '\\' :: r => some ('\\', r)
  | 'a' :: r  => some ('\x07', r)
  | 'b' :: r  => some ('\x08', r)
  | 'f' :: r  => some ('\x0c', r)
  | 'n' :: r  => some ('\n', r)
  | 'r' :: r  => some ('\r', r)
  | 't' :: r  => some ('\t', r)
  | 'v' :: r  => some ('\x0b', r)
  | cs =>
    let isOctal (c : Char) : Bool := '0' ≤ c && c ≤ '7'
    let digits := (cs.take 3).takeWhile isOctal
    if digits.isEmpty then none
    else some (Char.ofNat (Arithmetic.valueOf 8 digits % 256), cs.drop digits.length)

/-- A text with its escapes replaced; a backslash with no meaning stays. -/
def withoutEscapes : (fuel : Nat) → List Char → List Char
  | 0, cs => cs
  | _, [] => []
  | fuel + 1, '\\' :: cs =>
    match escape? cs, cs with
    | some (c, rest), _ => c :: withoutEscapes fuel rest
    | none, c :: rest   => '\\' :: c :: withoutEscapes fuel rest
    | none, []          => ['\\']
  | fuel + 1, c :: cs => c :: withoutEscapes fuel cs

/-- The text that is written with escapes. -/
def escaped (s : String) : String := String.ofList (withoutEscapes (s.length + 1) s.toList)

namespace Pattern

/-! ### Reading -/

/-- What is wrong with a regular expression. -/
inductive Fault where
  | lacksOperand
  | openGroup
  | badSet
  | repeatedStart
deriving DecidableEq, Repr

/-- The words for a fault. -/
def Fault.message : Fault → String
  | lacksOperand  => "missing operand"
  | openGroup     => "missing ')'"
  | badSet        => "bad class -- [], [^] or ["
  | repeatedStart => "syntax error ^* or ^+"

/-- The next character of a set, and what follows it. -/
def setChar : List Char → Option (Char × List Char)
  | []         => none
  | '\\' :: cs => some ((escape? cs).getD (match cs with
    | c :: rest => (c, rest)
    | []        => ('\\', [])))
  | c :: cs    => some (c, cs)

/-- The ranges of a set up to its closing bracket, and what follows it. -/
def readRanges : (fuel : Nat) → (isFirst : Bool) → List Char →
    Except Fault (List (Char × Char) × List Char)
  | 0, _, _ => .error .badSet
  | fuel + 1, isFirst, cs =>
    match cs with
    | [] => .error .badSet
    | ']' :: rest =>
      if isFirst then
        (readRanges fuel false rest).map fun (ranges, rest) => ((']', ']') :: ranges, rest)
      else .ok ([], rest)
    | '[' :: ':' :: rest =>
      let name := rest.takeWhile Char.isAlpha
      match rest.drop name.length, Shell.Pattern.classes.lookup (String.ofList name) with
      | ':' :: ']' :: after, some known =>
        (readRanges fuel false after).map fun (ranges, rest) => (known ++ ranges, rest)
      | _, _ => .error .badSet
    | cs =>
      match setChar cs with
      | none => .error .badSet
      | some (c, '-' :: ']' :: rest) =>
        (readRanges fuel false ('-' :: ']' :: rest)).map fun (ranges, rest) =>
          ((c, c) :: ranges, rest)
      | some (c, '-' :: rest) =>
        match setChar rest with
        | none => .error .badSet
        | some (d, after) =>
          let range := if c ≤ d then [(c, d)] else [(c, c), (d, d)]
          (readRanges fuel false after).map fun (ranges, rest) => (range ++ ranges, rest)
      | some (c, rest) =>
        (readRanges fuel false rest).map fun (ranges, rest) => ((c, c) :: ranges, rest)

/-- The signs of a text after one before them, in some groups that are open. -/
def signs : (fuel : Nat) → (deep : Nat) → (before : Option Regex.Sign) → List Char →
    Except Fault (List Regex.Sign)
  | 0, _, _, _ => .ok []
  | fuel + 1, deep, before, cs =>
    let begins := match before with
      | none | some .opening | some .bar => true
      | _                                => false
    let anchored := match before with
      | some (.atom .start) => true
      | _                   => false
    let emit (sign : Regex.Sign) (deep : Nat) (rest : List Char) : Except Fault (List Regex.Sign) :=
      (signs fuel deep (some sign) rest).map (sign :: ·)
    let times (least : Nat) (most : Option Nat) (rest : List Char) :
        Except Fault (List Regex.Sign) :=
      if anchored then .error .repeatedStart
      else if begins then .error .lacksOperand
      else emit (.times least most) deep rest
    match cs with
    | [] =>
      if begins && before.isSome then .error .lacksOperand
      else if deep != 0 then .error .openGroup
      else .ok []
    | '\\' :: rest =>
      let (c, rest) := (escape? rest).getD (match rest with
        | c :: more => (c, more)
        | []        => ('\\', []))
      emit (.atom (Regex.char c)) deep rest
    | '[' :: rest => do
      let (negated, rest) := match rest with
        | '^' :: r => (true, r)
        | r        => (false, r)
      let (ranges, rest) ← readRanges (rest.length + 1) true rest
      emit (.atom (.among negated ranges)) deep rest
    | '.' :: rest => emit (.atom (Regex.anyChar false)) deep rest
    | '^' :: rest => emit (.atom .start) deep rest
    | '$' :: rest => emit (.atom .finish) deep rest
    | '*' :: rest => times 0 none rest
    | '+' :: rest => times 1 none rest
    | '?' :: rest => times 0 (some 1) rest
    | '|' :: rest => if begins then .error .lacksOperand else emit .bar deep rest
    | '(' :: [] => .error .openGroup
    | '(' :: rest => emit .opening (deep + 1) rest
    | ')' :: rest =>
      if deep = 0 then emit (.atom (Regex.char ')')) deep rest
      else if begins then .error .lacksOperand
      else emit .closing (deep - 1) rest
    | c :: rest => emit (.atom (Regex.char c)) deep rest

/-- The regular expression that a text spells. -/
def ofText (text : String) : Except Fault Regex := do
  let all ← signs (text.length + 1) 0 none text.toList
  match Regex.readAlt true false (2 * all.length + 2) 0 all with
  | .ok (r, _, _) => return r
  | .error _      => throw .openGroup

end Pattern

end BoardConsole.Shell.Scan
