import BoardConsole.Shell.Regex
import BoardConsole.Shell.Utility.Text

/-!
# Shell — Scripts that edit lines

A script is a list of commands, each with the lines that it is run for. It is read from one or more
texts; what is wrong with one of them is said with how far it had been read.
-/

namespace BoardConsole.Shell.Utility.Edit

/-! ### Scripts -/

/-- A regular expression as it is looked for. -/
structure Sought where
  regex   : Regex
  anyCase : Bool
deriving Repr

/-- What selects lines. -/
inductive Address where
  | line (n : Nat)
  | last
  /-- Nothing given means the expression that was used last. -/
  | regex (r : Option Sought)
  /-- Every line so many apart from a first one. -/
  | step (first step : Nat)
deriving Repr

/-- Where a range of lines ends. -/
inductive Ending where
  | address (a : Address)
  | count (n : Nat)
  | multiple (n : Nat)
deriving Repr

/-- The lines that a command is run for. -/
inductive Selection where
  | all
  | one (a : Address)
  | range (first : Address) (last : Ending)
deriving Repr

/-- A part of what a match is replaced with. -/
inductive Piece where
  | text (cs : List Char)
  /-- What a group has matched; zero is the whole match. -/
  | group (n : Nat)
  /-- The letters that follow become upper or lower case; with neither, as they are. -/
  | fold (upper : Option Bool) (one : Bool)
deriving Repr

/-- A substitution. -/
structure Substitution where
  regex    : Option Sought
  pieces   : List Piece
  /-- The first match that is replaced, if it is not the first of all. -/
  first    : Option Nat
  all      : Bool
  prints   : Bool
  /-- Whether the line is run as a command afterwards. -/
  runs     : Bool
  /-- Whether it is printed before that. -/
  early    : Bool
  file     : Option String
deriving Repr

/-- What a command does. -/
inductive Action where
  /-- Leaves the commands up to a matching end out unless the line is selected. -/
  | block
  | blockEnd
  | label (name : String)
  | plain (letter : Char)
  | text (letter : Char) (s : String)
  | jump (letter : Char) (label : String)
  | quit (prints : Bool) (status : Nat)
  /-- Shows the line without doubt, in lines of some width. -/
  | list (width : Option Nat)
  /-- Runs a command of the shell, or the line itself. -/
  | run (command : Option String)
  | file (letter : Char) (name : String)
  | substitute (s : Substitution)
  | transliterate (pairs : List (Char × Char))
deriving Repr

/-- A command with the lines that it is run for. -/
structure Command where
  selection : Selection
  negated   : Bool
  action    : Action
deriving Repr

/-! ### Reading texts -/

/-- What is left to read of a text, and how much has been read. -/
structure Source where
  rest : List Char
  read : Nat

/-- What is wrong with a text, and how much had been read of it. -/
structure Fault where
  message : String
  read    : Nat

/-- What reads a text. -/
abbrev Reader := StateT Source (Except Fault)

/-- Gives up. -/
def refuse {α : Type} (message : String) : Reader α := do throw ⟨message, (← get).read⟩

/-- The next character, if there is one. -/
def next? : Reader (Option Char) := do
  match ← get with
  | ⟨[], _⟩          => return none
  | ⟨c :: rest, read⟩ =>
    set (⟨rest, read + 1⟩ : Source)
    return some c

/-- The next character, which is not taken. -/
def peek? : Reader (Option Char) := return (← get).rest.head?

/-- Goes on to what is left of the text. -/
def continueAt (rest : List Char) : Reader Unit :=
  modify fun s => ⟨rest, s.read + (s.rest.length - rest.length)⟩

/-- Leaves out what is at the beginning and of some kind. -/
def skip (p : Char → Bool) : Reader Unit := do continueAt ((← get).rest.dropWhile p)

def isSpace (c : Char) : Bool := c = ' ' || c = '\t'

/-- Takes the next character that is no blank. -/
def nextVisible? : Reader (Option Char) := do
  skip isSpace
  next?

/-- What is at the beginning and of some kind. -/
def takeWhile (p : Char → Bool) : Reader (List Char) := do
  let taken := (← get).rest.takeWhile p
  continueAt ((← get).rest.drop taken.length)
  return taken

/-- Reads a number. -/
def readNumber : Reader Nat := return Arithmetic.valueOf 10 (← takeWhile Char.isDigit)

/-! ### Escapes -/

/-- The character that digits of some base spell, and what follows them; nothing without digits. -/
def numbered? (base most : Nat) (cs : List Char) : Option (Char × List Char) :=
  let digits := (cs.take most).takeWhile fun c => (Arithmetic.digit? base c).isSome
  if digits.isEmpty then none
  else some (Char.ofNat (Arithmetic.valueOf base digits % 256), cs.drop digits.length)

/-- The character that stands behind a backslash, and what follows it; nothing where there is none of
its own for what follows the backslash. -/
def escape? : List Char → Option (Char × List Char)
  | 'a' :: rest => some ('\x07', rest)
  | 'f' :: rest => some ('\x0c', rest)
  | 'n' :: rest => some ('\n', rest)
  | 'r' :: rest => some ('\r', rest)
  | 't' :: rest => some ('\t', rest)
  | 'v' :: rest => some ('\x0b', rest)
  | 'c' :: c :: rest => some (Char.ofNat (c.toUpper.toNat ^^^ 64), rest)
  | 'd' :: rest => numbered? 10 3 rest
  | 'o' :: rest => numbered? 8 3 rest
  | 'x' :: rest => numbered? 16 2 rest
  | _           => none

/-- The text of a regular expression with its escapes for characters replaced. -/
def withoutEscapes : (fuel : Nat) → List Char → List Char
  | 0, cs => cs
  | _, [] => []
  | fuel + 1, '\\' :: rest =>
    match escape? rest, rest with
    | some (c, after), _ => c :: withoutEscapes fuel after
    | none, c :: after   => '\\' :: c :: withoutEscapes fuel after
    | none, []           => ['\\']
  | fuel + 1, c :: rest => c :: withoutEscapes fuel rest

/-- A text that is put in, without its backslashes. -/
def plainText : (fuel : Nat) → List Char → List Char
  | 0, cs => cs
  | _, [] => []
  | fuel + 1, '\\' :: rest =>
    match escape? rest, rest with
    | some (c, after), _ => c :: plainText fuel after
    | none, c :: after   => c :: plainText fuel after
    | none, []           => []
  | fuel + 1, c :: rest => c :: plainText fuel rest

/-- The pieces of a replacement. -/
def piecesOf : (fuel : Nat) → List Char → List Piece
  | 0, _ | _, [] => []
  | fuel + 1, '\\' :: c :: rest =>
    if c.isDigit then .group (c.toNat - 48) :: piecesOf fuel rest
    else
      match c with
      | 'U' => .fold (some true) false :: piecesOf fuel rest
      | 'L' => .fold (some false) false :: piecesOf fuel rest
      | 'u' => .fold (some true) true :: piecesOf fuel rest
      | 'l' => .fold (some false) true :: piecesOf fuel rest
      | 'E' => .fold none false :: piecesOf fuel rest
      | c =>
        match escape? (c :: rest) with
        | some (d, after) => .text [d] :: piecesOf fuel after
        | none            => .text [c] :: piecesOf fuel rest
  | fuel + 1, '&' :: rest => .group 0 :: piecesOf fuel rest
  | fuel + 1, c :: rest   => .text [c] :: piecesOf fuel rest

/-- The characters that a text of `y` lists; nothing where a backslash is at its end. -/
def listedChars : List Char → List Char
  | '\\' :: 'n' :: rest  => '\n' :: listedChars rest
  | '\\' :: 't' :: rest  => '\t' :: listedChars rest
  | '\\' :: c :: rest    => c :: listedChars rest
  | c :: rest            => c :: listedChars rest
  | []                   => []

/-! ### Parts of commands -/

/-- A text up to a delimiter that no backslash precedes, and what follows it. A delimiter after a
backslash stands for itself; brackets of a set hide it in an expression. -/
def upToDelimiter (delimiter : Char) (isRegex : Bool) : (fuel : Nat) → (inSet : Bool) → List Char →
    Option (List Char × List Char)
  | 0, _, _ => none
  | fuel + 1, inSet, cs =>
    match cs with
    | [] => none
    | '\\' :: c :: rest =>
      if inSet then
        (upToDelimiter delimiter isRegex fuel inSet (c :: rest)).map fun (t, r) => ('\\' :: t, r)
      else
        let kept :=
          if c = '\n' then (if isRegex then ['\n'] else ['\\', '\n'])
          else if c = delimiter && (isRegex || c != '&') then [c]
          else if c = 'n' && isRegex then ['\n']
          else ['\\', c]
        (upToDelimiter delimiter isRegex fuel inSet rest).map fun (t, r) => (kept ++ t, r)
    | '[' :: ':' :: rest =>
      let name := rest.takeWhile Char.isAlpha
      match inSet, rest.drop name.length with
      | true, ':' :: ']' :: after =>
        (upToDelimiter delimiter isRegex fuel inSet after).map fun (t, r) =>
          ('[' :: ':' :: name ++ ':' :: ']' :: t, r)
      | _, _ =>
        let inside := inSet || isRegex
        (upToDelimiter delimiter isRegex fuel inside (':' :: rest)).map fun (t, r) => ('[' :: t, r)
    | c :: rest =>
      if c = delimiter && !inSet then some ([], rest)
      else if c = '\n' && isRegex && !inSet then none
      else
        match isRegex && !inSet && c = '[', rest with
        | true, '^' :: ']' :: after =>
          (upToDelimiter delimiter isRegex fuel true after).map fun (t, r) => ('[' :: '^' :: ']' :: t, r)
        | true, ']' :: after =>
          (upToDelimiter delimiter isRegex fuel true after).map fun (t, r) => ('[' :: ']' :: t, r)
        | opens, _ =>
          let inside := opens || (inSet && c != ']')
          (upToDelimiter delimiter isRegex fuel inside rest).map fun (t, r) => (c :: t, r)

/-- Reads a text up to a delimiter. -/
def readDelimited (delimiter : Char) (isRegex : Bool) (fault : String) : Reader (List Char) := do
  let cs := (← get).rest
  match upToDelimiter delimiter isRegex (cs.length + 1) false cs with
  | some (text, rest) =>
    continueAt rest
    return text
  | none =>
    let _ ← takeWhile fun c => c != '\n' || !isRegex
    refuse fault

/-- The expression that a text spells; none where it is empty. -/
def soughtFrom (extended anyCase lines : Bool) (cs : List Char) : Reader (Option Sought) := do
  if cs.isEmpty then
    if anyCase || lines then refuse "cannot specify modifiers on empty regexp"
    return none
  match Regex.ofText { extended, lines } (String.ofList (withoutEscapes (cs.length + 1) cs)) with
  | .ok regex    => return some ⟨regex, anyCase⟩
  | .error fault => refuse fault.message

/-- Reads an address, if there is one. -/
def readAddress? (extended : Bool) : Reader (Option Address) := do
  let regex (delimiter : Char) : Reader (Option Address) := do
    let text ← readDelimited delimiter true "unterminated address regex"
    let flags ← takeWhile fun c => c = 'I' || c = 'M' || isSpace c
    return some (.regex (← soughtFrom extended (flags.contains 'I') (flags.contains 'M') text))
  match (← get).rest with
  | '$' :: rest =>
    continueAt rest
    return some .last
  | '/' :: rest =>
    continueAt rest
    regex '/'
  | '\\' :: c :: rest =>
    continueAt rest
    regex c
  | c :: _ =>
    if c.isDigit then
      let n ← readNumber
      skip isSpace
      match (← get).rest with
      | '~' :: rest =>
        continueAt rest
        skip isSpace
        let step ← readNumber
        return some (if step = 0 then .line n else .step n step)
      | _ => return some (.line n)
    else return none
  | [] => return none

/-- Reads the lines that a command is run for. -/
def readSelection (extended : Bool) : Reader Selection := do
  match ← peek? with
  | some '+' | some '~' =>
    let _ ← next?
    skip isSpace
    let _ ← readNumber
    refuse "invalid usage of +N or ~N as first address"
  | _ => pure ()
  match ← readAddress? extended with
  | none => return .all
  | some first =>
    skip isSpace
    let selection ← match (← get).rest with
      | ',' :: rest => do
        continueAt rest
        skip isSpace
        match (← get).rest with
        | '+' :: rest =>
          continueAt rest
          skip isSpace
          pure (Selection.range first (.count (← readNumber)))
        | '~' :: rest =>
          continueAt rest
          skip isSpace
          pure (Selection.range first (.multiple (← readNumber)))
        | _ =>
          match ← readAddress? extended with
          | some ending => pure (Selection.range first (.address ending))
          | none =>
            let _ ← next?
            refuse "unexpected \x60,'"
      | _ => pure (Selection.one first)
    match selection with
    | .range (.line 0) (.address (.regex _)) => return selection
    | .range (.line 0) _ | .one (.line 0) =>
      skip isSpace
      let _ ← next?
      refuse "invalid usage of line address 0"
    | selection => return selection

/-- Reads the text that is put in: the rest of a line, with further ones after a backslash. Answers
also whether the text ended behind such a backslash. -/
def readTextLines : (fuel : Nat) → Reader (List Char × Bool)
  | 0 => return ([], false)
  | fuel + 1 => do
    match ← next? with
    | none | some '\n' => return ([], false)
    | some '\\' =>
      match ← next? with
      | none => return ([], true)
      | some c =>
        let (cs, isOpen) ← readTextLines fuel
        return ('\\' :: c :: cs, isOpen)
    | some c =>
      let (cs, isOpen) ← readTextLines fuel
      return (c :: cs, isOpen)

/-- Reads the text of a command that puts text in; the text may go on in the next one. -/
def readTextArgument : Reader (List Char × Bool) := do
  skip isSpace
  match (← get).rest with
  | [] => refuse "expected \\ after \x60a', \x60c' or \x60i'"
  | ['\\'] =>
    continueAt []
    return ([], true)
  | '\n' :: rest =>
    continueAt rest
    return ([], false)
  | '\\' :: rest =>
    match rest.dropWhile isSpace with
    | '\n' :: after => continueAt after
    | _             => continueAt rest
  | _ => pure ()
  let n := (← get).rest.length
  let (cs, isOpen) ← readTextLines (n + 1)
  return (cs, isOpen)

/-- The text that is put in, from what was read. -/
def textOf (cs : List Char) : String := String.ofList (plainText (cs.length + 1) cs) ++ "\n"

/-- Reads the name of a file: what is left of a line. -/
def readName : Reader String := do
  skip isSpace
  let name ← takeWhile (· != '\n')
  if name.isEmpty then refuse "missing filename in r/R/w/W commands"
  return String.ofList name

/-- Reads a label. -/
def readLabel : Reader String := do
  skip isSpace
  return String.ofList (← takeWhile fun c => !Arithmetic.isBlank c && c != ';')

/-- Reads what must follow a command that has no argument any more. -/
def readEnd : Reader Unit := do
  skip isSpace
  match ← peek? with
  | none | some '\x7d' | some '#' => pure ()
  | some c =>
    let _ ← next?
    if c != '\n' && c != ';' then refuse "extra characters after command"

/-- Reads the flags of a substitution, and whether its expression is for any case and for lines. -/
def readFlags : (fuel : Nat) → Substitution → (anyCase lines : Bool) →
    Reader (Substitution × Bool × Bool)
  | 0, s, anyCase, lines => return (s, anyCase, lines)
  | fuel + 1, s, anyCase, lines => do
    match ← peek? with
    | none | some '\x7d' | some '#' => return (s, anyCase, lines)
    | some c =>
      if c.isDigit then
        let _ ← next?
        if s.first.isSome then refuse "multiple number options to \x60s' command"
        let more ← takeWhile Char.isDigit
        let n := Arithmetic.valueOf 10 (c :: more)
        if n = 0 then refuse "number option to \x60s' command may not be zero"
        readFlags fuel { s with first := some n } anyCase lines
      else
        let _ ← next?
        match c with
        | '\n' | ';' => return (s, anyCase, lines)
        | 'g' =>
          if s.all then refuse "multiple \x60g' options to \x60s' command"
          readFlags fuel { s with all := true } anyCase lines
        | 'p' =>
          if s.prints then refuse "multiple \x60p' options to \x60s' command"
          readFlags fuel { s with prints := true, early := !s.runs } anyCase lines
        | 'e'       => readFlags fuel { s with runs := true } anyCase lines
        | 'i' | 'I' => readFlags fuel s true lines
        | 'm' | 'M' => readFlags fuel s anyCase true
        | ' ' | '\t' => readFlags fuel s anyCase lines
        | 'w' => return ({ s with file := some (← readName) }, anyCase, lines)
        | _ => refuse "unknown option to \x60s'"

/-- The greatest group that a replacement refers to. -/
def greatestGroup (pieces : List Piece) : Nat :=
  pieces.foldl (fun n p => match p with | .group m => max n m | _ => n) 0

/-- Reads a substitution. -/
def readSubstitution (extended : Bool) : Reader Action := do
  let fault := "unterminated \x60s' command"
  match ← next? with
  | none => refuse fault
  | some delimiter =>
    if delimiter = '\n' || delimiter = '\\' then refuse fault
    let pattern ← readDelimited delimiter true fault
    let text ← readDelimited delimiter false fault
    let pieces := piecesOf (text.length + 1) text
    let (s, anyCase, lines) ← readFlags ((← get).rest.length + 1)
      ⟨none, pieces, none, false, false, false, false, none⟩ false false
    let regex ← soughtFrom extended anyCase lines pattern
    let wanted := greatestGroup pieces
    if regex.any fun r => r.regex.groups < wanted then
      refuse ("invalid reference \\" ++ toString wanted ++ " on \x60s' command's RHS")
    return .substitute { s with regex }

/-- Reads which characters are put in the place of which. -/
def readPairs : Reader Action := do
  let fault := "unterminated \x60y' command"
  match ← next? with
  | none => refuse fault
  | some delimiter =>
    let source := listedChars (← readDelimited delimiter false fault)
    let target := listedChars (← readDelimited delimiter false fault)
    if source.length != target.length then
      refuse "strings for \x60y' command are different lengths"
    readEnd
    return .transliterate (source.zip target)

/-! ### Commands -/

/-- A command that has been read. -/
inductive Reading where
  | done (a : Action)
  /-- The text of this command goes on in the next text. -/
  | unfinished (letter : Char) (cs : List Char)

/-- Reads what a command does, after its letter. -/
def readAction (extended : Bool) (selection : Selection) (letter : Char) : Reader Reading := do
  let hasAddress := match selection with | .all => false | _ => true
  let isRange := match selection with | .range _ _ => true | _ => false
  let plain (a : Action) : Reader Reading := do
    readEnd
    return .done a
  match letter with
  | '\x7b' => return .done .block
  | '\x7d' => plain .blockEnd
  | ':' =>
    if hasAddress then refuse ": doesn't want any addresses"
    let name ← readLabel
    if name = "" then refuse "\":\" lacks a label"
    return .done (.label name)
  | 'a' | 'i' | 'c' =>
    let (cs, isOpen) ← readTextArgument
    if isOpen then return .unfinished letter cs
    return .done (.text letter (textOf cs))
  | 'b' | 't' | 'T' =>
    skip isSpace
    let name ← takeWhile fun c => !Arithmetic.isBlank c && c != ';' && c != '\x7d'
    return .done (.jump letter (String.ofList name))
  | 'q' | 'Q' =>
    if isRange then refuse "command only uses one address"
    skip isSpace
    plain (.quit (letter = 'q') (← readNumber))
  | 'l' =>
    skip isSpace
    let digits ← takeWhile Char.isDigit
    plain (.list (if digits.isEmpty then none else some (Arithmetic.valueOf 10 digits)))
  | 'e' =>
    skip isSpace
    match ← peek? with
    | none | some '\n' => plain (.run none)
    | _ =>
      let (cs, _) ← readTextLines ((← get).rest.length + 1)
      return .done (.run (some (textOf cs)))
  | 'r' | 'R' | 'w' | 'W' => return .done (.file letter (← readName))
  | 's' => return .done (← readSubstitution extended)
  | 'y' => return .done (← readPairs)
  | letter =>
    if "=dDFgGhHnNpPxz".contains letter then plain (.plain letter)
    else refuse ("unknown command: \x60" ++ String.ofList [letter] ++ "'")

/-- A command that has been read with the lines that it is run for. -/
structure Entry where
  selection : Selection
  negated   : Bool
  reading   : Reading

/-- Reads the commands of a text; the first line may say that lines are not printed. `deep` is how
many blocks are open. -/
def readCommands (extended : Bool) : (fuel : Nat) → (deep : Nat) → Reader (List Entry × Nat)
  | 0, deep => return ([], deep)
  | fuel + 1, deep => do
    skip fun c => Arithmetic.isBlank c || c = ';'
    match ← peek? with
    | none => return ([], deep)
    | _ =>
      let selection ← readSelection extended
      let first ← nextVisible?
      let negated := first = some '!'
      let second ← if negated then nextVisible? else pure first
      if negated && second = some '!' then refuse "multiple \x60!'s"
      match second with
      | none => refuse "missing command"
      | some '#' =>
        match selection with
        | .all =>
          skip (· != '\n')
          readCommands extended fuel deep
        | _ => refuse "comments don't accept any addresses"
      | some 'v' =>
        let _ ← readLabel
        readCommands extended fuel deep
      | some letter =>
        if letter = '\x7d' && (deep = 0 || (match selection with | .all => false | _ => true)) then
          refuse (if deep = 0 then "unexpected \x60\x7d'" else "\x7d doesn't want any addresses")
        let reading ← readAction extended selection letter
        let deep := match letter with | '\x7b' => deep + 1 | '\x7d' => deep - 1 | _ => deep
        let (more, deep) ← readCommands extended fuel deep
        return (⟨selection, negated, reading⟩ :: more, deep)

/-! ### Whole scripts -/

/-- A text of a script, and the file that it was read from, if there is one. -/
structure Part where
  text : String
  file : Option String

/-- The commands of a script as far as they have been read, last first, with the text of the last one if
that is to go on. -/
structure Progress where
  commands : List Command
  pending  : Option (Entry × Char × List Char)
  deep     : Nat

/-- The commands read so far, with a text that goes on no more. -/
def Progress.closed (p : Progress) : List Command :=
  match p.pending with
  | none => p.commands
  | some (e, letter, cs) =>
    let text := if cs.isEmpty then "" else textOf cs
    ⟨e.selection, e.negated, .text letter text⟩ :: p.commands

/-- Reads one more text of a script. -/
def Progress.add (extended : Bool) (p : Progress) (text : String) : Except Fault Progress := do
  let read : Reader Progress := do
    let p ← match p.pending with
      | none => pure p
      | some (e, letter, cs) => do
        let (more, isOpen) ← readTextLines (text.length + 1)
        let all := if cs.isEmpty then more else cs ++ '\\' :: '\n' :: more
        if isOpen then pure { p with pending := some (e, letter, all) }
        else pure { p with
          commands := ⟨e.selection, e.negated, .text letter (textOf all)⟩ :: p.commands
          pending := none }
    let (entries, deep) ← readCommands extended (text.length + 1) p.deep
    let done := entries.filterMap fun e =>
      match e.reading with
      | .done a   => some ⟨e.selection, e.negated, a⟩
      | .unfinished _ _ => none
    let pending := match entries.getLast? with
      | some e => match e.reading with | .unfinished letter cs => some (e, letter, cs) | .done _ => none
      | none   => p.pending
    return ⟨done.reverse ++ p.commands, pending, deep⟩
  return (← read.run ⟨text.toList, 0⟩).1

/-- What is wrong with a script, in words. -/
def placed (parts : List Part) (index : Nat) (fault : Fault) : String :=
  match parts[index]? with
  | some ⟨text, some name⟩ =>
    let line := ((text.toList.take fault.read).dropLast.filter (· = '\n')).length + 1
    "file " ++ name ++ " line " ++ toString line ++ ": " ++ fault.message
  | _ =>
    let number := ((parts.take (index + 1)).filter (·.file.isNone)).length
    "-e expression #" ++ toString number ++ ", char " ++ toString fault.read ++ ": " ++ fault.message

/-- The labels that commands define. -/
def labels (commands : List Command) : List String :=
  commands.filterMap fun c => match c.action with | .label name => some name | _ => none

/-- The commands of a script, or what is wrong with it. -/
def ofParts (extended : Bool) (parts : List Part) : Except String (List Command) := do
  let step (state : Progress × Nat) (part : Part) : Except String (Progress × Nat) :=
    match state.1.add extended part.text with
    | .ok p        => .ok (p, state.2 + 1)
    | .error fault => .error (placed parts state.2 fault)
  let (p, count) ← parts.foldlM step (⟨[], none, 0⟩, 0)
  if p.deep != 0 then throw (placed parts (count - 1) ⟨"unmatched \x60\x7b'", 0⟩)
  let commands := p.closed.reverse
  let missing := commands.findSome? fun c =>
    match c.action with
    | .jump _ name => if name = "" || (labels commands).contains name then none else some name
    | _            => none
  match missing with
  | some name => throw ("can't find label for jump to \x60" ++ name ++ "'")
  | none      => return commands

end BoardConsole.Shell.Utility.Edit
