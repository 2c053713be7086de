import BoardConsole.Shell.Source

/-!
# Shell — Words and tokens

Words are read piece by piece. What ends a word, and what quotes and backslashes mean in it, depends
on where it stands: bare, in double quotes, in braces, in a document, or in an expression. The
commands inside a word are read by the reader of commands, which is handed in.
-/

namespace BoardConsole.Shell

/-- Where the characters of a word stand. -/
inductive Place where
  | bare
  | inQuotes
  /-- Inside the braces of a parameter. -/
  | inBraces
  /-- Inside the braces of a parameter that stand in quotes themselves. -/
  | inQuotedBraces
  /-- Between two double quotes in such braces, where a brace does not close. -/
  | inInnerQuotes
  | inDocument
  | inSum
deriving DecidableEq, Repr

/-- Whether what stands there is quoted. -/
def Place.isQuoted : Place → Bool
  | bare | inBraces => false
  | _               => true

/-- Reads what may stand inside something of its own kind. -/
structure Inner where
  /-- A list of commands, up to a token that cannot continue it. -/
  list    : (mayBeEmpty : Bool) → Reader Command
  command : Reader Command
  pieces  : Place → Reader Word

/-- A character that ends a bare word. -/
def endsWord (c : Char) : Bool :=
  c == ' ' || c == '\t' || c == '\n' || c == ';' || c == '&' || c == '|' || c == '(' || c == ')' ||
    c == '<' || c == '>'

/-- A parameter with a name of one character that is neither a letter nor a digit. -/
def isSpecial (c : Char) : Bool :=
  c == '@' || c == '*' || c == '#' || c == '?' || c == '-' || c == '$' || c == '!'

/-- Whether a character loses its meaning after a backslash there; elsewhere the backslash stays. -/
def isEscapable (place : Place) (c : Char) : Bool :=
  match place with
  | .bare | .inBraces => true
  | _ =>
    c == '$' || c == '\\' || c == '\u0060' ||
      (c == '"' && place != .inDocument) || (c == '\x7d' && (place == .inQuotedBraces || place == .inInnerQuotes))

namespace Reader

/-- Reads commands whose documents are their own. -/
def apart {α : Type} (reader : Reader α) : Reader α := do
  let outer := (← get).awaited
  modify fun s => { s with awaited := [] }
  let a ← reader
  modify fun s => { s with awaited := outer }
  return a

/-- A token as a message names it. -/
def nameOf : Token → String
  | .word _       => "word"
  | .op mark      => "\"" ++ mark ++ "\""
  | .redirect _ _ => "redirection"
  | .newline      => "newline"
  | .finish       => "end of file"
  | .keyword name => "\"" ++ name ++ "\""

/-- Gives up at a token, in whose place another one could stand. -/
def unexpected {α : Type} (t : Token) (expected : Option Token) : Reader α :=
  match expected with
  | none      => misread (nameOf t ++ " unexpected")
  | some what => misread (nameOf t ++ " unexpected (expecting " ++ nameOf what ++ ")")

/-! ### Parameters -/

/-- The change that begins after the name of a parameter in braces, and whether a word follows. -/
def readChange : Reader (Change × Bool) := do
  match ← peekJoined with
  | some '\x7d' => skip; return (.keep, false)
  | some ':' =>
    skip
    match ← peekJoined with
    | some '-' => skip; return (.default true, true)
    | some '+' => skip; return (.replace true, true)
    | some '?' => skip; return (.fail true, true)
    | some '=' => skip; return (.assign true, true)
    | _        => return (.unknown, true)
  | some '-' => skip; return (.default false, true)
  | some '+' => skip; return (.replace false, true)
  | some '?' => skip; return (.fail false, true)
  | some '=' => skip; return (.assign false, true)
  | some '%' => skip; return (.trimEnd (← takeIf '%'), true)
  | some '#' => skip; return (.trimStart (← takeIf '#'), true)
  | _        => return (.unknown, true)

/-- The name of a parameter in braces; nothing where there is none. -/
def readParameterName : Reader (Option String) := do
  match ← peekJoined with
  | none => return none
  | some c =>
    if isNameStart c then return some (← takeWhile isNameChar)
    else if c.isDigit then return some (← takeWhile Char.isDigit)
    else if isSpecial c then
      skip
      return some (String.ofList [c])
    else return none

/-- The rest of a parameter in braces. -/
def readBraces (inner : Inner) (place : Place) : Reader Piece := do
  let quoted := place.isQuoted
  let finishWith (name : String) (change : Change) (hasWord : Bool) : Reader Piece := do
    if !hasWord then return .parameter name change [] quoted
    let wordPlace : Place :=
      match change with
      | .trimStart _ | .trimEnd _ => .inBraces
      | _                         => if quoted then .inQuotedBraces else .inBraces
    return .parameter name change (← inner.pieces wordPlace) quoted
  match (← get).rest with
  | '#' :: '\x7d' :: _ =>
    skip; skip
    return .parameter "#" .keep [] quoted
  | '#' :: c :: d :: _ =>
    if isNameChar c then
      skip
      match ← readParameterName with
      | none => finishWith "" .unknown true
      | some name =>
        if ← takeIf '\x7d' then return .parameter name .length [] quoted
        else finishWith name .unknown true
    else if d = '\x7d' then
      skip
      if isSpecial c then
        skip; skip
        return .parameter (String.ofList [c]) .length [] quoted
      else finishWith "" .unknown true
    else
      skip
      let (change, hasWord) ← readChange
      finishWith "#" change hasWord
  | _ =>
    match ← readParameterName with
    | none => finishWith "" .unknown true
    | some name =>
      let (change, hasWord) ← readChange
      finishWith name change hasWord

/-- What stands after a dollar sign. -/
def readDollar (inner : Inner) (place : Place) : Reader Piece := do
  let quoted := place.isQuoted
  match ← peekJoined with
  | some '(' =>
    skip
    if ← takeIf '(' then return .sum (← inner.pieces .inSum) quoted
    else
      let command ← apart (inner.list true)
      let s ← get
      match s.pushed with
      | some (.op ")") => set { s with pushed := none }; return .output command quoted
      | some t         => unexpected t (some (.op ")"))
      | none           => unexpected .finish (some (.op ")"))
  | some '\x7b' =>
    skip
    readBraces inner place
  | some c =>
    if isNameStart c then return .parameter (← takeWhile isNameChar) .keep [] quoted
    else if c.isDigit || isSpecial c then
      skip
      return .parameter (String.ofList [c]) .keep [] quoted
    else return .char '$' quoted
  | none => return .char '$' quoted

/-- The text in backquotes, without the backslashes that keep characters from their meaning. -/
def readBackquoted (place : Place) : (fuel : Nat) → List Char → Reader (List Char)
  | 0, acc => return acc.reverse
  | fuel + 1, acc => do
    match ← next with
    | none        => misread "EOF in backquote substitution"
    | some '\u0060' => return acc.reverse
    | some '\\' =>
      match ← next with
      | none      => misread "EOF in backquote substitution"
      | some '\n' => readBackquoted place fuel acc
      | some c =>
        if c == '\\' || c == '\u0060' || c == '$' || (c == '"' && place.isQuoted) then
          readBackquoted place fuel (c :: acc)
        else readBackquoted place fuel (c :: '\\' :: acc)
    | some c => readBackquoted place fuel (c :: acc)

/-- Reads another text in the place of the one being read. -/
def within {α : Type} (text : List Char) (reader : Reader α) : Reader α := do
  let outer ← get
  set { outer with rest := text, pushed := none, budget := text.length + 2, active := [] }
  let a ← reader
  modify fun s =>
    { s with
      rest := outer.rest, pushed := outer.pushed, budget := outer.budget, active := outer.active
      line := outer.line }
  return a

/-- What stands in backquotes, after the first. -/
def readBackquotes (inner : Inner) (place : Place) : Reader Piece := do
  let text ← readBackquoted place (← get).budget []
  let command ← within text do
    modify ({ · with line := 1 })
    apart (inner.list true)
  return .output command place.isQuoted

/-! ### Pieces -/

/-- Reads the pieces of a word up to its end. `parens` counts the parentheses open in an
expression. -/
def readPieces (inner : Inner) (place : Place) : (fuel : Nat) → (parens : Nat) → Word → Reader Word
  | 0, _, acc => return acc.reverse
  | fuel + 1, parens, acc => do
    let quoted := place.isQuoted
    match ← peek with
    | none =>
      match place with
      | .bare | .inDocument         => return acc.reverse
      | .inQuotes | .inQuotedBraces | .inInnerQuotes => misread "Unterminated quoted string"
      | .inBraces                   => misread "Missing '\x7d'"
      | .inSum                      => misread "Missing '))'"
    | some '\\' =>
      skip
      match ← next with
      | none      => readPieces inner place fuel parens (.char '\\' true :: acc)
      | some '\n' => readPieces inner place fuel parens acc
      | some c =>
        if isEscapable place c then readPieces inner place fuel parens (.char c true :: acc)
        else readPieces inner place fuel parens (.char c true :: .char '\\' true :: acc)
    | some '$' =>
      skip
      let piece ← readDollar inner place
      readPieces inner place fuel parens (piece :: acc)
    | some '\u0060' =>
      skip
      let piece ← readBackquotes inner place
      readPieces inner place fuel parens (piece :: acc)
    | some '\'' =>
      if quoted then
        skip
        readPieces inner place fuel parens (.char '\'' true :: acc)
      else
        skip
        match ← takeThrough '\'' with
        | none      => misread "Unterminated quoted string"
        | some text =>
          let pieces : Word := text.map (.char · true)
          readPieces inner place fuel parens (pieces.reverse ++ .quotes :: acc)
    | some '"' =>
      skip
      match place with
      | .inQuotes => return acc.reverse
      | .inQuotedBraces => readPieces inner .inInnerQuotes fuel parens (.quotes :: acc)
      | .inInnerQuotes  => readPieces inner .inQuotedBraces fuel parens (.quotes :: acc)
      | .inDocument | .inSum => readPieces inner place fuel parens (.char '"' true :: acc)
      | .bare | .inBraces =>
        let pieces ← inner.pieces .inQuotes
        match pieces with
        | [.parameter "@" .keep _ _] => readPieces inner place fuel parens (pieces ++ acc)
        | _ => readPieces inner place fuel parens (pieces.reverse ++ .quotes :: acc)
    | some c =>
      if place = .bare && endsWord c then return acc.reverse
      else if c = '\x7d' && (place = .inBraces || place = .inQuotedBraces) then
        skip
        return acc.reverse
      else if place = .inSum && c = '(' then
        skip
        readPieces inner place fuel (parens + 1) (.char c true :: acc)
      else if place = .inSum && c = ')' then
        skip
        if 0 < parens then readPieces inner place fuel (parens - 1) (.char c true :: acc)
        else if ← takeIf ')' then return acc.reverse
        else readPieces inner place fuel 0 (.char c true :: acc)
      else
        skip
        readPieces inner place fuel parens (.char c quoted :: acc)

/-! ### Documents -/

/-- The lines of a document up to its delimiter. In a document that is expanded a backslash at the end
of a line joins the next one. -/
def takeDocument (d : Awaited) : (fuel : Nat) → (joined : Bool) → List Char → Reader (List Char)
  | 0, _, acc => return acc
  | fuel + 1, joined, acc => do
    if (← peek).isNone then return acc
    let line ← takeThrough '\n'
    match line with
    | some text =>
      let text := if d.stripTabs && !joined then text.dropWhile (· == '\t') else text
      if !joined && String.ofList text = d.delimiter then return acc
      let slashes := (text.reverse.takeWhile (· == '\\')).length
      takeDocument d fuel (d.expands && slashes % 2 == 1) (acc ++ text ++ ['\n'])
    | none => return acc

/-- Reads the documents that begin here. -/
def readDocuments (inner : Inner) : Reader Unit := do
  let awaited := (← get).awaited
  modify fun s => { s with awaited := [] }
  for d in awaited do
    let s ← get
    -- A last line without an end is ended for the delimiter's sake.
    let closed := if s.rest.getLast? = some '\n' || s.rest.isEmpty then s.rest else s.rest ++ ['\n']
    let unended := closed.length != s.rest.length
    set { s with rest := closed, budget := s.budget + 1 }
    let text ← takeDocument d s.budget false []
    let rest := (← get).rest
    let text := if unended && rest.isEmpty && text.getLast? = some '\n' && !endedByDelimiter s.rest d
      then text.dropLast else text
    let w ← if d.expands then within text (inner.pieces .inDocument)
      else pure (text.map (Piece.char · true))
    modify fun s => { s with documents := s.documents.setIfInBounds d.number w }
where
  /-- Whether a text without a last line end ends in the delimiter of a document. -/
  endedByDelimiter (rest : List Char) (d : Awaited) : Bool :=
    let last := (rest.reverse.takeWhile (· != '\n')).reverse
    String.ofList (if d.stripTabs then last.dropWhile (· == '\t') else last) = d.delimiter

/-! ### Tokens -/

/-- The mark of a redirection that begins with `<` or `>`. -/
def readMark (first : Char) : Reader String := do
  if first = '>' then
    if ← takeIf '>' then return ">>"
    else if ← takeIf '|' then return ">|"
    else if ← takeIf '&' then return ">&"
    else return ">"
  else if ← takeIf '<' then
    if ← takeIf '-' then return "<<-" else return "<<"
  else if ← takeIf '&' then return "<&"
  else if ← takeIf '>' then return "<>"
  else return "<"

/-- The next token of the text. -/
def readLexeme (inner : Inner) : (fuel : Nat) → Reader Token
  | 0 => return .finish
  | fuel + 1 => do
    skipJoins
    match ← peek with
    | none => readDocuments inner; return .finish
    | some ' ' | some '\t' => skip; readLexeme inner fuel
    | some '#' =>
      modify fun s => { s with rest := s.rest.dropWhile (· != '\n') }
      readLexeme inner fuel
    | some '\n' =>
      skip
      if !(← get).awaited.isEmpty then readDocuments inner
      return .newline
    | some '&' => skip; if ← takeIf '&' then return .op "&&" else return .op "&"
    | some '|' => skip; if ← takeIf '|' then return .op "||" else return .op "|"
    | some ';' => skip; if ← takeIf ';' then return .op ";;" else return .op ";"
    | some '(' => skip; return .op "("
    | some ')' => skip; return .op ")"
    | some '<' => skip; return .redirect none (← readMark '<')
    | some '>' => skip; return .redirect none (← readMark '>')
    | some _ =>
      let w ← readPieces inner .bare (← get).budget 0 []
      match w, ← peek with
      | [.char d false], some '<' =>
        if d.isDigit then skip; return .redirect (some (d.toNat - '0'.toNat)) (← readMark '<')
        else return .word w
      | [.char d false], some '>' =>
        if d.isDigit then skip; return .redirect (some (d.toNat - '0'.toNat)) (← readMark '>')
        else return .word w
      | _, _ => return .word w

/-- What a token is looked at for. -/
structure Attention where
  /-- Ends of lines are passed over. -/
  skipNewlines : Bool
  keywords     : Bool
  aliases      : Bool

/-- The words that begin or continue compound commands. -/
def keywords : List String :=
  ["!", "case", "do", "done", "elif", "else", "esac", "fi", "for", "if", "in", "then", "until",
   "while", "\x7b", "\x7d"]

/-- The token that was read too far, or else the next one of the text. -/
def takeToken (inner : Inner) : Reader Token := do
  let s ← get
  match s.pushed with
  | some t => set { s with pushed := none }; return t
  | none   => readLexeme inner s.budget

/-- Puts the text of an alias in front of the rest. -/
def pushAlias (name text : String) : Reader Unit :=
  modify fun s =>
    { s with
      rest   := text.toList ++ s.rest
      budget := s.budget + text.length
      active := (name, s.rest.length) :: s.active
      blankEnds :=
        if text.endsWith " " || text.endsWith "\t" then s.rest.length :: s.blankEnds
        else s.blankEnds }

/-- The text of an alias, unless it is being read. -/
def aliasOf? (name : String) : Reader (Option String) := do
  let s ← get
  if s.aliases.isEmpty then return none
  let left := s.rest.length
  let active := s.active.filter fun a => a.2 < left
  set { s with active }
  if active.any (·.1 = name) then return none
  return s.aliases.lookup name

/-- Takes a token, and answers whether it is the one after an alias that ends in a blank. -/
def takeAfterAlias (inner : Inner) : Reader (Token × Bool) := do
  let before := (← get).rest.length
  let t ← takeToken inner
  let s ← get
  if s.blankEnds.isEmpty then return (t, false)
  let left := s.rest.length
  set { s with blankEnds := s.blankEnds.filter (· ≤ left) }
  return (t, s.blankEnds.any fun n => n < before && left < n)

/-- Reads tokens until one counts. -/
def readAttending (inner : Inner) (attention : Attention) : (fuel : Nat) → Reader Token
  | 0 => return .finish
  | fuel + 1 => do
    let (t, follows) ← takeAfterAlias inner
    match t with
    | .newline =>
      if attention.skipNewlines then readAttending inner attention fuel else return .newline
    | .word w =>
      match plain? w with
      | none => return .word w
      | some name =>
        if attention.keywords && keywords.contains name then return .keyword name
        else if attention.aliases || follows then
          match ← aliasOf? name with
          | some text => pushAlias name text; readAttending inner attention fuel
          | none      => return .word w
        else return .word w
    | t => return t

/-- Reads a token. -/
def readToken (inner : Inner) (attention : Attention) : Reader Token := do
  readAttending inner attention (← get).budget

/-- Puts a token back. -/
def putBack (t : Token) : Reader Unit := modify fun s => { s with pushed := some t }

end Reader

end BoardConsole.Shell
