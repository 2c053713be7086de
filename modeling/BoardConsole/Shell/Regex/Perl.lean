import BoardConsole.Shell.Regex

/-!
# Shell — Regular expressions with looks around

The form of regular expressions that Perl has: turns that take as little as they can, looks at what
stands before and behind, letters after backslashes that stand for kinds of characters. Of the matches
at a place the preferred one counts, not the longest.
-/

namespace BoardConsole.Shell.Regex.Perl

/-! ### Reading -/

/-- What is wrong with the text of a regular expression. -/
inductive Fault where
  | openGroup
  | closedGroup
  | noOperand
  | openSet
  | badRange
  | badClass
  | openEscape
  | badEscape
  | badGroup
  | badBack
  | badBounds
deriving DecidableEq, Repr

/-- The words for a fault. -/
def Fault.message : Fault → String
  | openGroup   => "missing closing parenthesis"
  | closedGroup => "unmatched closing parenthesis"
  | noOperand   => "quantifier does not follow a repeatable item"
  | openSet     => "missing terminating ] for character class"
  | badRange    => "range out of order in character class"
  | badClass    => "unknown POSIX class name"
  | openEscape  => "\\ at end of pattern"
  | badEscape   => "unrecognized character follows \\"
  | badGroup    => "unrecognized character after (? or (?-"
  | badBack     => "reference to non-existent subpattern"
  | badBounds   => "numbers out of order in \x7b\x7d quantifier"

/-- What is set by letters in the text. -/
structure Flags where
  anyCase : Bool
  /-- Whether a dot stands for the end of a line too. -/
  dotAll  : Bool
  /-- Whether a caret and a dollar sign stand for the ends of lines too. -/
  lines   : Bool
  /-- Whether blanks in the text are left out. -/
  spaced  : Bool

/-- What is left to read, how many groups have begun, and the names of groups. -/
structure Source where
  rest   : List Char
  groups : Nat
  names  : List (String × Nat)

/-- What reads the text of a regular expression. -/
abbrev Reader := StateT Source (Except Fault)

/-- Goes on to what is left of the text. -/
def continueAt (rest : List Char) : Reader Unit := modify ({ · with rest })

/-- The characters that are not in some ranges. -/
def complement (ranges : List (Char × Char)) : List (Char × Char) :=
  ((List.range 256).map Char.ofNat).filterMap fun c =>
    if ranges.any fun (a, b) => a ≤ c && c ≤ b then none else some (c, c)

/-- The digits. -/
def digitRanges : List (Char × Char) := [('0', '9')]

/-- The blanks in a line. -/
def levelRanges : List (Char × Char) := [('\t', '\t'), (' ', ' '), ('\u00a0', '\u00a0')]

/-- The ends of lines. -/
def uprightRanges : List (Char × Char) := [('\n', '\r'), ('\u0085', '\u0085')]

/-- The kinds of characters that letters after a backslash stand for. -/
def kindOf? : Char → Option (List (Char × Char))
  | 'd' => some digitRanges
  | 'D' => some (complement digitRanges)
  | 'w' => some wordRanges
  | 'W' => some (complement wordRanges)
  | 's' => some blankRanges
  | 'S' => some (complement blankRanges)
  | 'h' => some levelRanges
  | 'H' => some (complement levelRanges)
  | 'v' => some uprightRanges
  | 'V' => some (complement uprightRanges)
  | 'N' => some (complement [('\n', '\n')])
  | _   => none

/-- The kinds of characters that properties stand for. -/
def propertyOf? (name : String) : Option (List (Char × Char)) :=
  match name with
  | "L" | "L&" | "Alphabetic" => some [('A', 'Z'), ('a', 'z')]
  | "Lu" => some [('A', 'Z')]
  | "Ll" => some [('a', 'z')]
  | "N" | "Nd" => some digitRanges
  | "P" => Pattern.classes.lookup "punct"
  | "Z" | "Zs" => some [(' ', ' ')]
  | "Xan" => some [('A', 'Z'), ('a', 'z'), ('0', '9')]
  | "Xwd" => some wordRanges
  | "Xsp" | "Xps" => some blankRanges
  | "Any" => some [(Char.ofNat 0, Char.ofNat 0x10ffff)]
  | _     => none

/-- Ranges with the letters in their other case. -/
def bothCases (ranges : List (Char × Char)) : List (Char × Char) :=
  ranges ++ (((List.range 128).map Char.ofNat).filterMap fun c =>
    if c.isAlpha && ranges.any fun (a, b) => a ≤ c && c ≤ b then some (otherCase c, otherCase c)
    else none)

/-- One of some characters. -/
def setOf (f : Flags) (negated : Bool) (ranges : List (Char × Char)) : Regex :=
  .among negated (if f.anyCase then bothCases ranges else ranges)

/-- Reads digits of some base. -/
def readDigits (base most : Nat) : Reader (List Char) := do
  let digits := ((← get).rest.take most).takeWhile fun c => (Arithmetic.digit? base c).isSome
  continueAt ((← get).rest.drop digits.length)
  return digits

/-- Reads a text up to a character. -/
def readUpTo (ending : Char) : Reader String := do
  let text := (← get).rest.takeWhile (· != ending)
  continueAt ((← get).rest.drop (text.length + 1))
  return String.ofList text

/-- Reads the character that a letter after a backslash stands for, if it stands for one. -/
def readEscaped? (c : Char) : Reader (Option Char) := do
  match c with
  | 'a' => return some '\x07'
  | 'e' => return some '\x1b'
  | 'f' => return some '\x0c'
  | 'n' => return some '\n'
  | 'r' => return some '\r'
  | 't' => return some '\t'
  | '0' => return some (Char.ofNat (Arithmetic.valueOf 8 (← readDigits 8 2)))
  | 'c' =>
    match (← get).rest with
    | d :: rest =>
      continueAt rest
      return some (Char.ofNat (d.toUpper.toNat ^^^ 64))
    | [] => throw .openEscape
  | 'x' =>
    match (← get).rest with
    | '\x7b' :: rest =>
      continueAt rest
      return some (Char.ofNat (Arithmetic.valueOf 16 (← readUpTo '\x7d').toList))
    | _ => return some (Char.ofNat (Arithmetic.valueOf 16 (← readDigits 16 2)))
  | 'o' =>
    match (← get).rest with
    | '\x7b' :: rest =>
      continueAt rest
      return some (Char.ofNat (Arithmetic.valueOf 8 (← readUpTo '\x7d').toList))
    | _ => throw .badEscape
  | _ => return if c.isAlphanum then none else some c

/-- Reads the property behind `\p`. -/
def readProperty (negated : Bool) : Reader (List (Char × Char)) := do
  let name ← match (← get).rest with
    | '\x7b' :: rest => do
      continueAt rest
      readUpTo '\x7d'
    | c :: rest => do
      continueAt rest
      pure (String.ofList [c])
    | [] => throw .openEscape
  let (turned, name) := match name.toList with
    | '^' :: rest => (true, String.ofList rest)
    | _           => (false, name)
  match propertyOf? name with
  | some ranges => return if negated != turned then complement ranges else ranges
  | none        => throw .badEscape

/-- Reads an item of a set: a kind of characters, or one. -/
def readItem (c : Char) : Reader (List (Char × Char) ⊕ Char) := do
  match c, (← get).rest with
  | '[', ':' :: rest =>
    let (negated, rest) := match rest with
      | '^' :: rest => (true, rest)
      | _           => (false, rest)
    let name := rest.takeWhile Char.isAlpha
    match rest.drop name.length, Pattern.classes.lookup (String.ofList name) with
    | ':' :: ']' :: after, some known =>
      continueAt after
      return .inl (if negated then complement known else known)
    | ':' :: ']' :: after, none =>
      if name = ['w', 'o', 'r', 'd'] then
        continueAt after
        return .inl (if negated then complement wordRanges else wordRanges)
      else throw .badClass
    | _, _ => return .inr '['
  | '\\', d :: rest =>
    continueAt rest
    match kindOf? d with
    | some ranges => return .inl ranges
    | none =>
      match d with
      | 'b' => return .inr '\x08'
      | 'p' => return .inl (← readProperty false)
      | 'P' => return .inl (← readProperty true)
      | d =>
        if d.isDigit then
          let more ← readDigits 8 2
          return .inr (Char.ofNat (Arithmetic.valueOf 8 (d :: more)))
        match ← readEscaped? d with
        | some c => return .inr c
        | none   => throw .badEscape
  | '\\', [] => throw .openEscape
  | c, _ => return .inr c

/-- Reads the ranges of a set up to its closing bracket. -/
def readRanges : (fuel : Nat) → (isFirst : Bool) → Reader (List (Char × Char))
  | 0, _ => throw .openSet
  | fuel + 1, isFirst => do
    match (← get).rest with
    | [] => throw .openSet
    | c :: rest =>
      continueAt rest
      if c = ']' && !isFirst then return []
      match ← readItem c with
      | .inl ranges => return ranges ++ (← readRanges fuel false)
      | .inr low =>
        match (← get).rest with
        | '-' :: d :: after =>
          if d = ']' then return (low, low) :: (← readRanges fuel false)
          continueAt after
          match ← readItem d with
          | .inl ranges => return (low, low) :: ('-', '-') :: ranges ++ (← readRanges fuel false)
          | .inr high =>
            if high < low then throw .badRange
            return (low, high) :: (← readRanges fuel false)
        | _ => return (low, low) :: (← readRanges fuel false)

/-- Reads a set after its opening bracket. -/
def readSet (f : Flags) : Reader Regex := do
  let negated := (← get).rest.head? = some '^'
  if negated then continueAt ((← get).rest.drop 1)
  let ranges ← readRanges ((← get).rest.length + 1) true
  return setOf f negated ranges

/-- The bounds of a repetition in braces, and what follows them. -/
def bounds? (cs : List Char) : Option ((Nat × Option Nat) × List Char) :=
  let first := cs.takeWhile Char.isDigit
  if first.isEmpty then none
  else
    let least := Arithmetic.valueOf 10 first
    match cs.drop first.length with
    | '\x7d' :: rest => some ((least, some least), rest)
    | ',' :: rest =>
      let last := rest.takeWhile Char.isDigit
      match rest.drop last.length with
      | '\x7d' :: after =>
        some ((least, if last.isEmpty then none else some (Arithmetic.valueOf 10 last)), after)
      | _ => none
    | _ => none

/-- Reads the repetitions after something. -/
def readTimes : (fuel : Nat) → Regex → Reader Regex
  | 0, r => return r
  | fuel + 1, r => do
    let found := match (← get).rest with
      | '*' :: rest    => some ((0, none), rest)
      | '+' :: rest    => some ((1, none), rest)
      | '?' :: rest    => some ((0, some 1), rest)
      | '\x7b' :: rest => bounds? rest
      | _              => none
    match found with
    | none => return r
    | some ((least, most), rest) =>
      if most.any (· < least) then throw .badBounds
      let (r, rest) := match rest with
        | '?' :: rest => (Regex.few least most r, rest)
        | '+' :: rest => (.once (.repeat least most r), rest)
        | rest        => (.repeat least most r, rest)
      continueAt rest
      readTimes fuel r

/-- An end of a word. -/
def wordEdge : Regex := .alt (.edge (some false) (some true)) (.edge (some true) (some false))

/-- A place that is no end of a word. -/
def noEdge : Regex := .alt (.edge (some false) (some false)) (.edge (some true) (some true))

/-- Reads a number or a name of a group, and answers the number. -/
def readReference (ending : Char) : Reader Nat := do
  let name ← readUpTo ending
  match name.toNat?, (← get).names.lookup name with
  | some n, _    => return n
  | none, some n => return n
  | none, none =>
    match name.toList with
    | '-' :: digits => return (← get).groups + 1 - Arithmetic.valueOf 10 digits
    | _             => throw .badBack

/-- Reads what follows a backslash. -/
def readEscape (f : Flags) : Reader Regex := do
  match (← get).rest with
  | [] => throw .openEscape
  | c :: rest =>
    continueAt rest
    match kindOf? c with
    | some ranges => return setOf f false ranges
    | none =>
      match c, rest with
      | 'b', _ => return wordEdge
      | 'B', _ => return noEdge
      | 'A', _ | 'G', _ => return .start
      | 'z', _ => return .finish
      | 'Z', _ => return .alt .finish (.ahead true (.seq (char '\n') .finish))
      | 'K', _ => return .keep
      | 'R', _ => return .once (.alt (.seq (char '\r') (char '\n')) (.among false uprightRanges))
      | 'p', _ => return setOf f false (← readProperty false)
      | 'P', _ => return setOf f false (← readProperty true)
      | 'Q', _ =>
        let text := rest
        let rec quoted : List Char → List Char × List Char
          | '\\' :: 'E' :: after => ([], after)
          | c :: cs => let (t, r) := quoted cs; (c :: t, r)
          | [] => ([], [])
        let (cs, after) := quoted text
        continueAt after
        return cs.foldr (fun c r => .seq (setOf f false [(c, c)]) r) .nothing
      | 'E', _ => return .nothing
      | 'g', '\x7b' :: after =>
        continueAt after
        return .back (← readReference '\x7d')
      | 'g', _ => return .back (Arithmetic.valueOf 10 (← readDigits 10 2))
      | 'k', '\x7b' :: after =>
        continueAt after
        return .back (← readReference '\x7d')
      | 'k', '<' :: after =>
        continueAt after
        return .back (← readReference '>')
      | 'k', '\'' :: after =>
        continueAt after
        return .back (← readReference '\'')
      | c, _ =>
        if c.isDigit && c != '0' then
          return .back (Arithmetic.valueOf 10 (c :: (← readDigits 10 1)))
        match ← readEscaped? c with
        | some d => return setOf f false [(d, d)]
        | none   => throw .badEscape

/-- Flags that letters change. -/
def Flags.change (f : Flags) (on : Bool) : List Char → Option Flags
  | []          => some f
  | '-' :: rest => f.change false rest
  | 'i' :: rest => { f with anyCase := on }.change on rest
  | 's' :: rest => { f with dotAll := on }.change on rest
  | 'm' :: rest => { f with lines := on }.change on rest
  | 'x' :: rest => { f with spaced := on }.change on rest
  | _ :: _      => none

/-- What a group in parentheses is for. -/
inductive Purpose where
  | capturing
  | plain (f : Flags)
  | once
  | ahead (holds : Bool)
  | behind (holds : Bool)
  /-- Not a group: the letters count up to the end of the group around it. -/
  | setting (f : Flags)
  | comment

/-- Reads what a group is for, after its opening parenthesis. -/
def readPurpose (f : Flags) : Reader Purpose := do
  let named (ending : Char) (rest : List Char) : Reader Purpose := do
    continueAt rest
    let name ← readUpTo ending
    modify fun s => { s with names := (name, s.groups + 1) :: s.names }
    return .capturing
  match (← get).rest with
  | '?' :: rest =>
    match rest with
    | ':' :: rest =>
      continueAt rest
      return .plain f
    | '>' :: rest =>
      continueAt rest
      return .once
    | '=' :: rest =>
      continueAt rest
      return .ahead true
    | '!' :: rest =>
      continueAt rest
      return .ahead false
    | '<' :: '=' :: rest =>
      continueAt rest
      return .behind true
    | '<' :: '!' :: rest =>
      continueAt rest
      return .behind false
    | '<' :: rest | 'P' :: '<' :: rest => named '>' rest
    | '\'' :: rest => named '\'' rest
    | '#' :: rest =>
      continueAt rest
      let _ ← readUpTo ')'
      return .comment
    | rest =>
      let letters := rest.takeWhile fun c => c = '-' || c.isAlpha
      match f.change true letters, rest.drop letters.length with
      | some g, ':' :: after =>
        continueAt after
        return .plain g
      | some g, ')' :: after =>
        continueAt after
        return .setting g
      | _, _ => throw .badGroup
  | _ => return .capturing

mutual

/-- Reads alternatives. -/
def readAlt : (fuel : Nat) → Flags → Reader Regex
  | 0, _ => return .nothing
  | fuel + 1, f => do
    let (r, f) ← readSeq fuel f .nothing
    match (← get).rest with
    | '|' :: rest =>
      continueAt rest
      return .alt r (← readAlt fuel f)
    | _ => return r

/-- Reads what follows each other, after something. -/
def readSeq : (fuel : Nat) → Flags → Regex → Reader (Regex × Flags)
  | 0, f, r => return (r, f)
  | fuel + 1, f, r => do
    let join (t : Regex) : Regex := match r with | .nothing => t | r => .seq r t
    let atom (t : Regex) : Reader (Regex × Flags) := do
      readSeq fuel f (join (← readTimes ((← get).rest.length + 1) t))
    match (← get).rest with
    | [] | ')' :: _ | '|' :: _ => return (r, f)
    | c :: rest =>
      continueAt rest
      match c with
      | '\\' => atom (← readEscape f)
      | '['  => atom (← readSet f)
      | '.'  => atom (anyChar (!f.dotAll))
      | '^'  => atom (if f.lines then .lineStart else .start)
      | '$'  => atom (if f.lines then .lineFinish else .finish)
      | '*' | '+' | '?' => throw .noOperand
      | '('  =>
        match ← readPurpose f with
        | .comment   => readSeq fuel f r
        | .setting g => readSeq fuel g r
        | purpose =>
          let inner := match purpose with | .plain g => g | _ => f
          let number := (← get).groups + 1
          match purpose with
          | .capturing => modify ({ · with groups := number })
          | _          => pure ()
          let t ← readAlt fuel inner
          match (← get).rest with
          | ')' :: rest =>
            continueAt rest
            atom (match purpose with
              | .capturing    => .group number t
              | .once         => .once t
              | .ahead holds  => .ahead holds t
              | .behind holds => .behind holds t
              | _             => t)
          | _ => throw .openGroup
      | c =>
        if f.spaced && Arithmetic.isBlank c then readSeq fuel f r
        else if f.spaced && c = '#' then
          let _ ← readUpTo '\n'
          readSeq fuel f r
        else atom (setOf f false [(c, c)])

end

/-- The regular expression that a text spells. -/
def ofText (text : String) : Except Fault Regex := do
  let cs := text.toList
  let (r, s) ← (readAlt (2 * cs.length + 2) ⟨false, false, false, false⟩).run ⟨cs, 0, []⟩
  if !s.rest.isEmpty then throw .closedGroup
  if (backs r).any (s.groups < ·) then throw .badBack
  return r

end BoardConsole.Shell.Regex.Perl
