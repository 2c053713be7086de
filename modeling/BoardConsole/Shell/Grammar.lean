import BoardConsole.Shell.Lexeme

/-!
# Shell — The grammar of commands

Commands are read by descent over the grammar. What stands inside a command of its own kind is read
by readers that are handed in, and `inner` ties the knot up to a depth. `readLine` reads what stands
on one line: a script is run a line at a time, so that a fault further down does not keep what is
above it from running.
-/

namespace BoardConsole.Shell.Reader

/-! ### What a token is looked at for -/

/-- A command may begin here, also on a later line. -/
def atStart : Attention := ⟨true, true, true⟩

/-- A command may begin here, on this line. -/
def onLine : Attention := ⟨false, true, true⟩

/-- A word of the grammar is looked for, also on a later line. -/
def forKeyword : Attention := ⟨true, true, false⟩

/-- A command or what belongs to it is looked for. -/
def forAlias : Attention := ⟨false, false, true⟩

/-- Nothing but a word is looked for. -/
def forWord : Attention := ⟨false, false, false⟩

/-- A token that cannot begin a command but may follow a list of them. -/
def endsList : Token → Bool
  | .finish       => true
  | .op mark      => mark == ")" || mark == ";;"
  | .keyword name =>
    ["do", "done", "elif", "else", "esac", "fi", "then", "\x7d"].contains name
  | _             => false

/-- Takes a keyword that has to be there. -/
def expectKeyword (inner : Inner) (attention : Attention) (name : String) : Reader Unit := do
  match ← readToken inner attention with
  | .keyword k => if k != name then unexpected (.keyword k) (some (.keyword name))
  | t          => unexpected t (some (.keyword name))

/-! ### Redirections -/

/-- How a mark opens a file, and the descriptor that it opens by default. -/
def openingOf? (mark : String) : Option (Opening × Nat) :=
  [("<", .reading, 0), (">", .writing, 1), (">|", .overwriting, 1), (">>", .appending, 1),
   ("<>", .both, 0), ("<&", .copying, 0), (">&", .copying, 1)].lookup mark

/-- The text of a word that is not expanded. -/
def textOf (w : Word) : String :=
  String.ofList (w.filterMap fun
    | .char c _ => some c
    | _         => none)

/-- The rest of a redirection. -/
def readRedirection (inner : Inner) (descriptor : Option Nat) (mark : String) :
    Reader Redirection := do
  match ← readToken inner forWord with
  | .word w =>
    match openingOf? mark with
    | some (opening, usual) => return .mk (descriptor.getD usual) opening w
    | none =>
      let s ← get
      let awaited : Awaited :=
        { number := s.documents.size, delimiter := textOf w, stripTabs := mark == "<<-"
          expands := !w.any Piece.isQuoted }
      set { s with documents := s.documents.push [], awaited := s.awaited ++ [awaited] }
      return .mk (descriptor.getD 0) (.document awaited.number) []
  | t => unexpected t none

/-- The redirections after a compound command. -/
def readRedirections (inner : Inner) :
    (fuel : Nat) → List Redirection → Reader (List Redirection)
  | 0, acc => return acc.reverse
  | fuel + 1, acc => do
    match ← readToken inner onLine with
    | .redirect descriptor mark =>
      let r ← readRedirection inner descriptor mark
      readRedirections inner fuel (r :: acc)
    | t =>
      putBack t
      return acc.reverse

/-! ### Simple commands -/

/-- The name and the value of a word that assigns a variable. -/
def assignment? (w : Word) : Option (String × Word) :=
  let name := w.takeWhile fun
    | .char c false => c != '='
    | _             => false
  match plain? name, w.drop name.length with
  | some s, .char '=' false :: value => if isName s then some (s, value) else none
  | _, _                             => none

/-- The builtins that no function can take the place of. -/
def specialBuiltins : List String :=
  [".", ":", "break", "continue", "eval", "exec", "exit", "export", "readonly", "return", "set",
   "shift", "times", "trap", "unset"]

/-- What has been read of a simple command, last first. -/
structure Simple where
  assignments  : List (String × Word)
  words        : List Word
  redirections : List Redirection

/-- Reads a simple command, or a function after its name. -/
def readSimple (inner : Inner) (line : Nat) : (fuel : Nat) → Simple → Reader Command
  | 0, _ => return .nothing
  | fuel + 1, simple => do
    match ← readToken inner (if simple.words.isEmpty then forAlias else forWord) with
    | .word w =>
      match if simple.words.isEmpty then assignment? w else none with
      | some a => readSimple inner line fuel { simple with assignments := a :: simple.assignments }
      | none   => readSimple inner line fuel { simple with words := w :: simple.words }
    | .redirect descriptor mark =>
      let r ← readRedirection inner descriptor mark
      readSimple inner line fuel { simple with redirections := r :: simple.redirections }
    | t =>
      match t, simple with
      | .op "(", ⟨[], [w], []⟩ =>
        match ← readToken inner forWord with
        | .op ")" =>
          let name := (plain? w).getD ""
          if !isName name || specialBuiltins.contains name then misread "Bad function name"
          return .define name (← inner.command)
        | t => unexpected t (some (.op ")"))
      | _, _ =>
        putBack t
        return .simple line simple.assignments.reverse simple.words.reverse
          simple.redirections.reverse

/-! ### Compound commands -/

/-- The rest of a choice, after its `if` or `elif`. -/
def readChoice (inner : Inner) : (fuel : Nat) → Reader Command
  | 0 => return .nothing
  | fuel + 1 => do
    let condition ← inner.list false
    expectKeyword inner forWord "then"
    let yes ← inner.list false
    match ← readToken inner forWord with
    | .keyword "elif" => return .choice condition yes (← readChoice inner fuel)
    | .keyword "else" => return .choice condition yes (← inner.list false)
    | t =>
      putBack t
      return .choice condition yes .nothing

/-- The words that a loop goes through, after its `in`. -/
def readWords (inner : Inner) : (fuel : Nat) → List Word → Reader (List Word)
  | 0, acc => return acc.reverse
  | fuel + 1, acc => do
    match ← readToken inner forWord with
    | .word w            => readWords inner fuel (w :: acc)
    | .newline | .op ";" => return acc.reverse
    | t                  => unexpected t none

/-- All arguments, as a loop goes through them that names no words. -/
def allArguments : Word := [.parameter "@" .keep [] true]

/-- The rest of a loop over words. -/
def readEach (inner : Inner) (line : Nat) : Reader Command := do
  let name ←
    match ← readToken inner forWord with
    | .word w => pure ((plain? w).getD "")
    | _       => pure ""
  if !isName name then misread "Bad for loop variable"
  let words ←
    match ← readToken inner atStart with
    | .keyword "in" => readWords inner (← get).budget []
    | .op ";"       => pure [allArguments]
    | t =>
      putBack t
      pure [allArguments]
  expectKeyword inner atStart "do"
  return .each line name words (← inner.list false)

/-- The pattern that a token stands for; one that is no word stands for the word before it. -/
def patternOf (before : Word) : Token → Word
  | .word w       => w
  | .keyword name => literal name false
  | _             => before

/-- The patterns of one arm, from the first one on, up to the parenthesis after them. -/
def readPatterns (inner : Inner) : (fuel : Nat) → Token → List Word → Reader (List Word)
  | 0, _, acc => return acc.reverse
  | fuel + 1, t, acc => do
    let w := patternOf (acc.headD (literal "in" false)) t
    match ← readToken inner forWord with
    | .op "|" => readPatterns inner fuel (← readToken inner forWord) (w :: acc)
    | .op ")" => return (w :: acc).reverse
    | t       => unexpected t (some (.op ")"))

/-- The arms of a case. -/
def readArms (inner : Inner) :
    (fuel : Nat) → List (List Word × Command) → Reader (List (List Word × Command))
  | 0, acc => return acc.reverse
  | fuel + 1, acc => do
    match ← readToken inner forKeyword with
    | .keyword "esac" => return acc.reverse
    | t =>
      let first ←
        match t with
        | .op "(" => readToken inner forWord
        | t       => pure t
      let patterns ← readPatterns inner (← get).budget first []
      let body ← inner.list true
      let acc := (patterns, body) :: acc
      match ← readToken inner forKeyword with
      | .keyword "esac" => return acc.reverse
      | .op ";;"        => readArms inner fuel acc
      | t               => unexpected t (some (.op ";;"))

/-- The rest of a case. -/
def readCase (inner : Inner) (line : Nat) : Reader Command := do
  match ← readToken inner forWord with
  | .word w =>
    expectKeyword inner atStart "in"
    return .case line w (← readArms inner (← get).budget [])
  | t => unexpected t (some (.word []))

/-- Adds the redirections after a compound command. -/
def withRedirections (inner : Inner) (line : Nat) (command : Command) : Reader Command := do
  match ← readRedirections inner (← get).budget [] with
  | [] => return command
  | rs =>
    match command with
    | .subshell _ c _ => return .subshell line c rs
    | c               => return .redirected line c rs

/-- A compound command up to a keyword that ends it. -/
def closedBy (inner : Inner) (name : String) (reader : Reader Command) : Reader Command := do
  let line := (← get).line
  let command ← reader
  expectKeyword inner forWord name
  withRedirections inner line command

/-- Reads a command. -/
def readCommand (inner : Inner) (attention : Attention) : Reader Command := do
  let t ← readToken inner attention
  let line := (← get).line
  match t with
  | .keyword "if"    => closedBy inner "fi" (do readChoice inner (← get).budget)
  | .keyword "while" => closedBy inner "done" (readLoop false)
  | .keyword "until" => closedBy inner "done" (readLoop true)
  | .keyword "for"   => closedBy inner "done" (readEach inner line)
  | .keyword "\x7b"  => closedBy inner "\x7d" (inner.list false)
  | .keyword "case"  => withRedirections inner line (← readCase inner line)
  | .op "(" =>
    let body ← inner.list false
    match ← readToken inner forWord with
    | .op ")" => withRedirections inner line (.subshell line body [])
    | t       => unexpected t (some (.op ")"))
  | .word _ | .redirect _ _ =>
    putBack t
    readSimple inner line (← get).budget ⟨[], [], []⟩
  | t => unexpected t none
where
  /-- A loop after its first word. -/
  readLoop (untilTrue : Bool) : Reader Command := do
    let condition ← inner.list false
    expectKeyword inner forWord "do"
    return .loop untilTrue condition (← inner.list false)

/-! ### Lists -/

/-- The commands of a pipeline after the first. -/
def readPipe (inner : Inner) : (fuel : Nat) → List Command → Reader (List Command)
  | 0, acc => return acc.reverse
  | fuel + 1, acc => do
    match ← readToken inner forWord with
    | .op "|" =>
      let c ← readCommand inner atStart
      readPipe inner fuel (c :: acc)
    | t =>
      putBack t
      return acc.reverse

/-- A pipeline, which may begin with `!`. -/
def readPipeline (inner : Inner) (attention : Attention) : Reader Command := do
  let (negated, attention) ←
    match ← readToken inner attention with
    | .keyword "!" => pure (true, onLine)
    | t =>
      putBack t
      pure (false, forWord)
  let first ← readCommand inner attention
  let commands ← readPipe inner (← get).budget [first]
  let command :=
    match commands with
    | [c] => c
    | cs  => .pipe cs
  return if negated then .not command else command

/-- Pipelines joined by `&&` and `||`, after the first of them. -/
def readJoined (inner : Inner) : (fuel : Nat) → Command → Reader Command
  | 0, left => return left
  | fuel + 1, left => do
    match ← readToken inner forWord with
    | .op "&&" =>
      let right ← readPipeline inner atStart
      readJoined inner fuel (.and left right)
    | .op "||" =>
      let right ← readPipeline inner atStart
      readJoined inner fuel (.or left right)
    | t =>
      putBack t
      return left

/-- One command after another. -/
def andThen : Option Command → Command → Option Command
  | none, c   => some c
  | some a, c => some (.sequence a c)

/-- How far a list goes. -/
inductive Extent where
  /-- To the end of the line; whatever follows has to be a command. -/
  | line
  /-- To what cannot continue it, with one command at least. -/
  | body
  /-- To what cannot continue it. -/
  | whole
deriving DecidableEq

/-- Reads a list of commands. The flag says whether the text ended before any of them. -/
def readList (inner : Inner) (extent : Extent) (fuel : Nat) : Reader (Option Command × Bool) := do
  go fuel none (extent == .whole)
where
  /-- Goes on behind the commands before; `mayEnd` says whether the list may end here. -/
  go : (fuel : Nat) → Option Command → (mayEnd : Bool) → Reader (Option Command × Bool)
    | 0, before, _ => return (before, false)
    | fuel + 1, before, mayEnd => do
      match ← readToken inner (if extent == .line then onLine else atStart) with
      | .newline => return (before, false)
      | .finish =>
        putBack .finish
        return (before, before.isNone && extent == .line)
      | t =>
        putBack t
        if mayEnd && endsList t then return (before, false)
        let first ← readPipeline inner forWord
        let command ← readJoined inner (← get).budget first
        match ← readToken inner forWord with
        | .op "&" => go fuel (andThen before (.background command)) (extent != .line)
        | .op ";" => go fuel (andThen before command) (extent != .line)
        | .newline =>
          putBack .newline
          go fuel (andThen before command) (extent != .line)
        | .finish =>
          putBack .finish
          return (andThen before command, false)
        | t =>
          if extent == .line then unexpected t none
          putBack t
          return (andThen before command, false)

/-- The readers of what stands inside something of its own kind, up to a depth. -/
def inner : (depth : Nat) → Inner
  | 0 =>
    { list := fun _ => misread "Too deep", command := misread "Too deep"
      pieces := fun _ => misread "Too deep" }
  | depth + 1 =>
    let below := inner depth
    { list := fun mayBeEmpty => do
        let (command, _) ← readList below (if mayBeEmpty then .whole else .body) (← get).budget
        return command.getD .nothing
      command := readCommand below atStart
      pieces := fun place => do readPieces below place (← get).budget 0 [] }

/-- How deep commands are read inside commands. -/
def greatestDepth : Nat := 400

/-- Reads the commands of one line; nothing at the end of the text. -/
def readLine : Reader (Option Command) := do
  modify fun s => { s with pushed := none, awaited := [] }
  let (command, ended) ← readList (inner greatestDepth) .line (← get).budget
  return if ended then none else some (command.getD .nothing)

end BoardConsole.Shell.Reader
