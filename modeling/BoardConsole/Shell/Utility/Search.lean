import BoardConsole.Shell.Calendar.Phrase
import BoardConsole.Shell.Utility.Date
import BoardConsole.Shell.Utility.Listing
import BoardConsole.Shell.Utility.Status

/-!
# Shell — Searches

The conditions of a search, and the words that they are read from.
-/

namespace BoardConsole.Shell.Search

open Utility

/-!
## Conditions of a search

What a search asks of the files that it comes to, and what it does with them. A condition is made of
others by negation, by conjunction and by choice; what does something is a condition too, which holds
or does not.
-/

/-- Which permissions are asked for. -/
inductive Permitted where
  | exactly
  | all
  | any
deriving DecidableEq, Repr

/-- Where something is written: to the standard output, or to a file. -/
abbrev Outlet := Option String

/-- A part of a format. -/
inductive Piece where
  | text (s : String)
  /-- Nothing is printed from here on. -/
  | stop
  | field (layout : FieldLayout) (letter : Char)
  /-- A part of the time when a file was changed. -/
  | time (layout : FieldLayout) (letter : Char)

/-- A command that is run. -/
structure Launched where
  words    : List String
  /-- Whether it is run for many files at once. -/
  together : Bool
  /-- Whether it is run in the directory of the file. -/
  within   : Bool
  asks     : Bool
  /-- The number that tells it from others. -/
  number   : Nat

/-- A condition of a search. -/
inductive Condition where
  | always
  | never
  | name (anyCase : Bool) (pattern : List Mark)
  | path (anyCase : Bool) (pattern : List Mark)
  /-- What a link holds. -/
  | target (anyCase : Bool) (pattern : List Mark)
  | fits (anyCase : Bool) (r : Regex)
  /-- The letters of kinds, of which one is that of the file, or of what a link leads to. -/
  | kinds (turned : Bool) (letters : List Char)
  | empty
  | size (order : Ordering) (count unit : Nat)
  | links (order : Ordering) (count : Nat)
  | number (order : Ordering) (count : Nat)
  | owner (order : Ordering) (count : Nat)
  | permits (how : Permitted) (bits : Nat)
  /-- Changed before a moment, after it, or in a span after it. -/
  | time (order : Ordering) (moment span : Int)
  | same (path : Path) (number : Nat)
  | mayRun
  | print (out : Outlet) (mark : Char)
  | format (out : Outlet) (pieces : List Piece)
  | list (out : Outlet)
  | delete
  | prune
  | quit
  | run (command : Launched)
  | not (c : Condition)
  | and (c d : Condition)
  | or (c d : Condition)
  /-- The first one is only looked at. -/
  | both (c d : Condition)

/-- The commands of a condition that are run for many files at once. -/
def Condition.together : Condition → List Launched
  | run c              => if c.together then [c] else []
  | not c              => c.together
  | and c d | or c d | both c d => c.together ++ d.together
  | _                  => []

/-! ### Formats -/

/-- A file that a search has come to. -/
structure Visited where
  entry : Entry
  depth : Nat
  /-- The operand below which it was found. -/
  start : String

/-- The characters behind the last slash. -/
def afterSlash (cs : List Char) : List Char := (cs.reverse.takeWhile (· != '/')).reverse

/-- The last component of a name, with a slash at its end if it has one. -/
def baseOf (name : String) : String :=
  let whole := (trimSlashes name).toList
  if whole = ['/'] then "/"
  else String.ofList (afterSlash whole) ++ (if name.endsWith "/" then "/" else "")

/-- What stands in front of the last component. -/
def leadingOf (name : String) : String :=
  let whole := (name.toList.reverse.dropWhile (· = '/')).reverse
  if !name.contains '/' then "."
  else
    match splitLast '/' whole with
    | some (front, _) => String.ofList front
    | none            => String.ofList whole

/-- A name without the operand below which it was found. -/
def Visited.rest (v : Visited) : String :=
  if v.depth = 0 then ""
  else
    let cs := v.entry.name.toList.drop v.start.length
    String.ofList (if cs.head? = some '/' then cs.drop 1 else cs)

/-- The nanoseconds of a moment with a point in front and a zero behind. -/
def fractionOf (m : Moment) : String :=
  "." ++ String.ofList ((toString (m.nano + 1000000000)).toList.drop 1) ++ "0"

/-- A whole moment. -/
def wholeTime (m : Moment) : String :=
  m.format "%a %b %e %H:%M:%S" ++ fractionOf m ++ m.format " %Y"

/-- A part of a moment by its letter. -/
def timePart (m : Moment) (letter : Char) : String :=
  match letter with
  | '@' => toString m.epoch ++ fractionOf m
  | '+' => m.format "%Y-%m-%d+%H:%M:%S" ++ fractionOf m
  | 'S' => m.format "%S" ++ fractionOf m
  | 'T' | 'X' => m.format "%H:%M:%S" ++ fractionOf m
  | c   => m.format (String.ofList ['%', c])

/-- The letter for the kind of what is where a link leads. -/
def turnedLetter (v : Volume) (e : Entry) : Char :=
  if e.kind != .link then kindLetter e.kind
  else
    match v.resolve true [] (Volume.nameOf (v.absolute e.path)) with
    | .ok path             => ((Act.kindAt? v path).map kindLetter).getD 'N'
    | .error .tooManyLinks => 'L'
    | .error _             => 'N'

/-- The letter of a kind as searches write it. -/
def shownLetter (c : Char) : Char := if c = '-' then 'f' else c

/-- How much of its size a file takes: up to six digits of the quotient. -/
def sparseness (e : Entry) : String :=
  if e.size = 0 then (if e.blocks = 0 then "1" else "inf")
  else Decimal.general (Decimal.Ratio.mk (e.blocks * 512) e.size) 6 false

/-- A part of a format filled in. -/
def Piece.fill (v : Volume) (zone : Zone) (x : Visited) : Piece → String
  | text s => s
  | stop   => ""
  | time f letter => f.text (timePart (Moment.ofNanos zone x.entry.time) letter)
  | field f letter =>
    let e := x.entry
    let letterText (c : Char) : String := f.text (String.ofList [c])
    match letter with
    | 'a' | 'c' | 't' => f.text (wholeTime (Moment.ofNanos zone e.time))
    | 'b' => f.text (toString e.blocks)
    | 'd' => Format.Layout.signed
        { f.layout true with plus := f.flags.contains '+', space := f.flags.contains ' ' } x.depth
    | 'D' => f.text "65024"
    | 'f' => f.text (baseOf e.name)
    | 'F' => f.text "ext4"
    | 'g' | 'u' => f.text "root"
    | 'G' | 'U' => f.text "0"
    | 'h' => f.text (leadingOf e.name)
    | 'H' => f.text x.start
    | 'i' => f.text (toString e.number)
    | 'k' => f.text (toString ((e.blocks + 1) / 2))
    | 'l' => f.text e.target
    | 'm' => (f.layout true).unsigned 'o' e.mode
    | 'M' => f.text e.permissions
    | 'n' => f.text (toString e.links)
    | 'p' => f.text e.name
    | 'P' => f.text x.rest
    | 's' => f.text (toString e.size)
    | 'S' => f.text (sparseness e)
    | 'y' => letterText (shownLetter (kindLetter e.kind))
    | 'Y' => letterText (shownLetter (turnedLetter v e))
    | '%' => "%"
    | _   => ""

/-- A format filled in, up to a place where it stops. -/
def fillPieces (v : Volume) (zone : Zone) (x : Visited) : List Piece → String
  | []         => ""
  | .stop :: _ => ""
  | p :: rest  => p.fill v zone x ++ fillPieces v zone x rest

/-- A line with all that is known of a file. -/
def listedLine (now : Int) (zone : Zone) (e : Entry) : String :=
  let isRecent : Bool := now - halfYear < e.time && e.time < now + 3600 * nanosInSecond
  let time := (Moment.ofNanos zone e.time).format (if isRecent then "%b %e %H:%M" else "%b %e  %Y")
  let show_ (s : String) : String := Quoting.apply (.bare [' ', '"']) s
  let size := match e.kind with
    | .device =>
      let (major, minor) := deviceNumbers e.path
      padLeft 3 (toString major) ++ ", " ++ padLeft 3 (toString minor)
    | _ => padLeft 8 (toString e.size)
  padLeft 9 (toString e.number) ++ " " ++ padLeft 6 (toString ((e.blocks + 1) / 2)) ++ " " ++
    e.permissions ++ " " ++ padLeft 3 (toString e.links) ++ " root     root     " ++ size ++ " " ++
    time ++ " " ++ show_ e.name ++ (if e.kind = .link then " -> " ++ show_ e.target else "") ++ "\n"

open Act

/-!
## The words of a search

A search is read in two steps: first each word with its arguments becomes a sign, a condition or an
operator; then the signs become one condition. A comma binds least, then `-o`, `-a` and negation, and
conditions that stand side by side have to hold both.
-/

/-! ### Signs -/

/-- A sign of a search. Operators keep the word by which they are named. -/
inductive Sign where
  | condition (c : Condition)
  | not (word : String)
  | and (word : String)
  | or (word : String)
  | comma
  | opening
  | closing

/-- What is read of a search besides its conditions. -/
structure Plan where
  least    : Nat := 0
  greatest : Nat := greatestTreeDepth
  /-- Whether something is done with what is found. -/
  acts     : Bool := false
  /-- Whether a directory comes after what lies in it. -/
  inside   : Bool := false
  /-- Whether that was asked for. -/
  asked    : Bool := false
  /-- Whether links are followed: below the operands, or for the operands. -/
  follows  : Bool := false
  turns    : Bool := false
  /-- Whether times are counted from the beginning of the day. -/
  byDay    : Bool := false
  regex    : String := "findutils-default"
  deletes  : Bool := false
  prunes   : Bool := false
  commands : Nat := 0
  /-- The file that names where to search. -/
  names    : Option String := none

/-- Reads words, or says what is wrong with them. -/
abbrev Reader := StateT (List String × Plan) (ExceptT String Act)

def act {α : Type} (a : Act α) : Reader α := StateT.lift (ExceptT.lift a)

def adjust (f : Plan → Plan) : Reader Unit := modify fun (w, p) => (w, f p)

def nextWord? : Reader (Option String) := do
  let (words, p) ← get
  match words with
  | []        => return none
  | w :: rest =>
    set (rest, p)
    return some w

/-- A word in the quotes of a message. -/
def ticked (s : String) : String := "\x60" ++ s ++ "'"

/-- The argument of a condition. -/
def argument (name : String) : Reader String := do
  match ← nextWord? with
  | some s => return s
  | none   => throw ("missing argument to " ++ ticked name)

/-- Refuses an argument. -/
def refuse {α : Type} (name s : String) : Reader α :=
  throw ("invalid argument " ++ ticked s ++ " to " ++ ticked name)

/-! ### Arguments -/

/-- How a number is compared, and the text of the number. -/
def orderOf (s : String) : Ordering × String :=
  match s.toList with
  | '+' :: cs => (.gt, String.ofList cs)
  | '-' :: cs => (.lt, String.ofList cs)
  | _         => (.eq, s)

/-- A number and how it is compared. -/
def comparedNumber (name : String) : Reader (Ordering × Nat) := do
  let s ← argument name
  let (order, text) := orderOf s
  match text.toNat? with
  | some n => return (order, n)
  | none   => refuse name s

/-- A depth. -/
def depthOf (name : String) : Reader Nat := do
  let s ← argument name
  if s != "" && s.all Char.isDigit then return s.toNat?.getD 0
  throw ("Expected a positive decimal integer argument to " ++ name ++ ", but got " ++ cited s)

/-- A number with a fraction, times a unit. -/
def timesUnit? (unit : Int) (s : String) : Option Int :=
  let (negative, cs) := match s.toList with
    | '-' :: cs => (true, cs)
    | '+' :: cs => (false, cs)
    | cs        => (false, cs)
  let whole := cs.takeWhile Char.isDigit
  let (fraction, rest) := match cs.drop whole.length with
    | '.' :: more =>
      let digits := more.takeWhile Char.isDigit
      (digits, more.drop digits.length)
    | more => ([], more)
  if (whole.isEmpty && fraction.isEmpty) || !rest.isEmpty then none
  else
    let n : Int := Arithmetic.valueOf 10 (whole ++ fraction) * unit / (Nat.pow 10 fraction.length : Nat)
    some (if negative then -n else n)

/-- A day in nanoseconds. -/
def day : Int := secondsInDay * nanosInSecond

/-- How long ago something was changed, in days or in minutes. What was changed less time ago was
changed after a moment. -/
def ageCondition (name : String) (inDays : Bool) : Reader Condition := do
  let s ← argument name
  let (order, text) := orderOf s
  let unit := if inDays then day else 60 * nanosInSecond
  match timesUnit? unit text with
  | none => refuse name s
  | some n =>
    let now ← act presentNanos
    let zone ← act currentZone
    let byDay := (← get).2.byDay
    let midnight := (now / nanosInSecond + zone.ahead) / secondsInDay * secondsInDay - zone.ahead
    let start := if byDay then midnight * nanosInSecond else now - day
    let origin :=
      if inDays then (if order = .lt then start + day - nanosInSecond else start)
      else if byDay then start + day else now
    let turned : Ordering := match order with
      | .lt => .gt
      | .gt => .lt
      | .eq => .eq
    return .time turned (origin - n) unit

/-- Changed after a file was. -/
def newerThan (name : String) : Reader Condition := do
  let s ← argument name
  match ← act (look true s) with
  | .ok (_, path)  => return .time .gt (changedAt (← act volume) path) 0
  | .error reason  => throw (cited s ++ ": " ++ reason)

/-- Changed after a moment that words mean. -/
def newerThanMoment (name : String) : Reader Condition := do
  let s ← argument name
  match Phrase.nanos? (← act presentMoment) s with
  | some n => return .time .gt n 0
  | none   => throw ("I cannot figure out how to interpret " ++ cited s ++ " as a date or time")

/-- The condition of a size. -/
def sizeCondition : Reader Condition := do
  let s ← argument "-size"
  let (order, text) := orderOf s
  match text.toList.reverse with
  | [] => throw "invalid null argument to -size"
  | last :: front =>
    let unit? := if last.isDigit then some 512
      else [('b', 512), ('c', 1), ('w', 2), ('k', 1024), ('M', 1048576), ('G', 1073741824)].lookup last
    match unit? with
    | none => throw ("invalid -size type " ++ ticked (String.ofList [last]))
    | some unit =>
      let digits := if last.isDigit then text.toList else front.reverse
      if digits.isEmpty || !digits.all Char.isDigit then
        throw ("Invalid argument " ++ ticked s ++ " to -size")
      return .size order (Arithmetic.valueOf 10 digits) unit

/-- The condition of permissions. -/
def modeCondition : Reader Condition := do
  let s ← argument "-perm"
  let (how, text) := match s.toList with
    | '-' :: cs => (Permitted.all, String.ofList cs)
    | '/' :: cs => (.any, String.ofList cs)
    | _         => (.exactly, s)
  match if s.startsWith "+" then none else Mode.ofText? false 0 0 text with
  | some bits => return .permits how bits
  | none      => throw ("invalid mode " ++ cited s)

/-- The letters of kinds. -/
def kindLetters (name s : String) : Except String (List Char) := do
  if s = "" then throw ("Arguments to " ++ name ++ " should contain at least one letter")
  let letters ← (s.splitOn ",").mapM fun part =>
    match part.toList with
    | [c] =>
      if "bcdpflsD".toList.contains c then .ok c
      else .error ("Unknown argument to " ++ name ++ ": " ++ part)
    | [] => .error ("Last file type in list argument to " ++ name ++
        " is missing, i.e., list is ending on: ','")
    | _ => .error ("Must separate multiple arguments to " ++ name ++ " using: ','")
  return letters.map fun c => if c = 'f' then '-' else c

/-- The users that a system has besides the first. -/
def otherUsers : List String :=
  ["daemon", "bin", "sys", "sync", "games", "man", "lp", "mail", "news", "uucp", "proxy", "www-data",
   "backup", "list", "irc", "nobody"]

/-- The condition of an owner or a group. -/
def ownerCondition (name what : String) : Reader Condition := do
  let s ← argument name
  if s = "root" then return .always
  if otherUsers.contains s then return .never
  match s.toNat? with
  | some n => return .owner .eq n
  | none   => throw (cited s ++ " is not the name of " ++ what)

/-- The types of regular expressions, with whether they are extended ones. -/
def regexTypes : List (String × Option Bool) :=
  [("findutils-default", none), ("ed", some false), ("emacs", none), ("gnu-awk", some true),
   ("grep", some false), ("posix-awk", some true), ("awk", some true), ("posix-basic", some false),
   ("posix-egrep", some true), ("egrep", some true), ("posix-extended", some true),
   ("posix-minimal-basic", some false), ("sed", some false)]

/-- An expression whose groups and bars have backslashes, as an extended one. -/
def asExtended : (inSet : Bool) → List Char → List Char
  | _, [] => []
  | true, c :: cs => c :: asExtended (c != ']') cs
  | false, '\\' :: c :: cs =>
    if c = '(' || c = ')' || c = '|' then c :: asExtended false cs
    else '\\' :: c :: asExtended false cs
  | false, '[' :: '^' :: c :: cs => '[' :: '^' :: c :: asExtended true cs
  | false, '[' :: c :: cs => '[' :: c :: asExtended true cs
  | false, c :: cs =>
    if "()|\x7b\x7d".toList.contains c then '\\' :: c :: asExtended false cs
    else c :: asExtended false cs

/-- The condition of a regular expression, which has to match the whole name. -/
def regexCondition (name : String) (anyCase : Bool) : Reader Condition := do
  let s ← argument name
  let read : Except Regex.Fault Regex := match (regexTypes.lookup (← get).2.regex).getD none with
    | some extended => Regex.ofText { extended } s
    | none =>
      Regex.ofText { extended := true, lenient := true } (String.ofList (asExtended false s.toList))
  match read with
  | .ok r    => return .fits anyCase (Regex.asWhole r)
  | .error _ =>
    throw ("failed to compile regular expression " ++ cited s ++ ": Invalid regular expression")

/-! ### Formats -/

/-- The letters of the fields of a format. -/
def fieldLetters : List Char := "abcdDfFgGhHiklmMnpPsStuUyY".toList

/-- The parts of a format, and warnings of it. -/
def piecesOf : (fuel : Nat) → List Char → Except String (List Piece × List String)
  | 0, _ | _, [] => .ok ([], [])
  | fuel + 1, c :: cs => do
    let add (p : Piece) (rest : List Char) : Except String (List Piece × List String) :=
      (piecesOf fuel rest).map fun (ps, ws) => (p :: ps, ws)
    let warn (text warning : String) (rest : List Char) : Except String (List Piece × List String) :=
      (piecesOf fuel rest).map fun (ps, ws) => (.text text :: ps, warning :: ws)
    if c = '\\' then
      match cs with
      | [] => warn "\\" "escape \x60\\' followed by nothing at all" []
      | 'c' :: _ => return ([.stop], [])
      | d :: rest =>
        if Format.isOctal d then
          let digits := Format.octalDigits cs
          add (.text (String.ofList [Format.octal digits])) (cs.drop digits.length)
        else
          let warning := "unrecognized escape \x60\\" ++ String.ofList [d] ++ "'"
          match if d = 'e' then none else Format.letter? d with
          | some x => add (.text (String.ofList [x])) rest
          | none   => warn (String.ofList ['\\', d]) warning rest
    else if c != '%' then add (.text (String.ofList [c])) cs
    else
      let flags := cs.takeWhile fun c => "-+ #0".toList.contains c
      let rest := cs.drop flags.length
      let width := rest.takeWhile Char.isDigit
      let rest := rest.drop width.length
      let (precision, rest) := match rest with
        | '.' :: more =>
          let digits := more.takeWhile Char.isDigit
          (some (some (Arithmetic.valueOf 10 digits)), more.drop digits.length)
        | _ => (none, rest)
      let layout : FieldLayout := ⟨flags, Arithmetic.valueOf 10 width, precision⟩
      let written (n : Nat) : String := String.ofList ('%' :: cs.take (cs.length - rest.length + n))
      match rest with
      | [] => throw "error: % at end of format string"
      | '%' :: rest => add (.text "%") rest
      | 'A' :: k :: rest | 'B' :: k :: rest | 'C' :: k :: rest | 'T' :: k :: rest =>
        add (.time layout k) rest
      | d :: rest =>
        if fieldLetters.contains d then add (.field layout d) rest
        else if "ABCT".toList.contains d then
          warn (written 1) ("format directive " ++ ticked (written 1) ++
            " should be followed by another character") rest
        else if "\x7b[(".toList.contains d then
          throw ("error: the format directive " ++ ticked (written 1) ++ " is reserved for future use")
        else warn (written 1) ("unrecognized format directive " ++ ticked (written 1)) rest

/-- The parts of a format that is an argument. -/
def formatArgument (name : String) : Reader (List Piece) := do
  let s ← argument name
  match piecesOf (s.length + 1) s.toList with
  | .error fault => throw fault
  | .ok (pieces, warnings) =>
    for w in warnings do act (complain ("find: warning: " ++ w))
    return pieces

/-- A file that is written to, which begins empty. -/
def outletArgument (name : String) : Reader Outlet := do
  let s ← argument name
  if s = "/dev/stdout" then return none
  match ← act (writeFile s "" false) with
  | .ok ()        => return some s
  | .error reason => throw (cited s ++ ": " ++ reason)

/-! ### Commands -/

/-- The mark for a name. -/
def nameMark : String := "\x7b\x7d"

/-- The words of a command up to its end, last first, and whether it is run for many files. -/
def commandWords (name : String) (plus : Bool) : (fuel : Nat) → (read : List String) →
    Reader (List String × Bool)
  | 0, _ => throw ("missing argument to " ++ ticked name)
  | fuel + 1, read => do
    let marked (w : String) : Bool := occursIn nameMark.toList w.toList
    match ← nextWord? with
    | none     => throw ("missing argument to " ++ ticked name)
    | some ";" => if read.isEmpty then refuse name ";" else return (read.reverse, false)
    | some "+" =>
      if plus && read.head?.any marked then
        if (read.filter marked).length != 1 then
          throw ("Only one instance of " ++ nameMark ++ " is supported with " ++ name ++ " ... +")
        if read.head? != some nameMark then
          throw ("In " ++ cited (name ++ " ... " ++ nameMark ++ " +") ++ " the " ++ cited nameMark ++
            " must appear by itself, but you specified " ++ cited (read.headD ""))
        return (read.tail.reverse, true)
      else commandWords name plus fuel ("+" :: read)
    | some w => commandWords name plus fuel (w :: read)

/-- A command that is run. -/
def runCondition (name : String) (within asks : Bool) : Reader Condition := do
  let (words, together) ← commandWords name (!asks) ((← get).1.length + 1) []
  let number := (← get).2.commands
  adjust ({ · with acts := true, commands := number + 1 })
  return .run ⟨words, together, within, asks, number⟩

/-! ### Conditions by their names -/

/-- Something that is done with what is found. -/
def doing (c : Condition) : Reader Condition := do
  adjust ({ · with acts := true })
  return c

/-- A pattern that is an argument. -/
def patternOf (name : String) (anyCase : Bool) : Reader (List Mark) := do
  let s ← argument name
  return Pattern.ofString (if anyCase then s.toLower else s)

/-- What a name sets for the whole search. -/
def setting? : String → Option (Reader Unit)
  | "-maxdepth" => some do
    let n ← depthOf "-maxdepth"
    adjust ({ · with greatest := n })
  | "-mindepth" => some do
    let n ← depthOf "-mindepth"
    adjust ({ · with least := n })
  | "-depth" | "-d" => some (adjust ({ · with inside := true, asked := true }))
  | "-follow" => some (adjust ({ · with follows := true, turns := true }))
  | "-daystart" => some (adjust ({ · with byDay := true }))
  | "-files0-from" => some do
    let s ← argument "-files0-from"
    adjust ({ · with names := some s })
  | "-regextype" => some do
    let s ← argument "-regextype"
    if (regexTypes.lookup s).isNone then
      throw ("Unknown regular expression type " ++ cited s ++ "; valid types are " ++
        ", ".intercalate (regexTypes.map fun t => cited t.1) ++ ".")
    adjust ({ · with regex := s })
  | "-xdev" | "-mount" | "-noleaf" | "-warn" | "-nowarn" | "-ignore_readdir_race"
  | "-noignore_readdir_race" => some (return ())
  | _ => none

/-- What a name asks of the name of a file, of its kind or its owner. -/
def nameTest? : String → Option (Reader Condition)
  | "-name"      => some (return .name false (← patternOf "-name" false))
  | "-iname"     => some (return .name true (← patternOf "-iname" true))
  | "-path"      => some (return .path false (← patternOf "-path" false))
  | "-wholename" => some (return .path false (← patternOf "-wholename" false))
  | "-ipath"     => some (return .path true (← patternOf "-ipath" true))
  | "-iwholename" => some (return .path true (← patternOf "-iwholename" true))
  | "-lname"     => some (return .target false (← patternOf "-lname" false))
  | "-ilname"    => some (return .target true (← patternOf "-ilname" true))
  | "-regex"     => some (regexCondition "-regex" false)
  | "-iregex"    => some (regexCondition "-iregex" true)
  | "-type"      => some (kinds "-type" false)
  | "-xtype"     => some (kinds "-xtype" true)
  | "-user"      => some (ownerCondition "-user" "a known user")
  | "-group"     => some (ownerCondition "-group" "an existing group")
  | "-uid"       => some (number "-uid" Condition.owner)
  | "-gid"       => some (number "-gid" Condition.owner)
  | "-links"     => some (number "-links" Condition.links)
  | "-inum"      => some (number "-inum" Condition.number)
  | "-samefile"  => some do
    let s ← argument "-samefile"
    match ← act (look false s) with
    | .ok (_, path) => return .same path (numberAt (← act volume) path)
    | .error reason => throw (cited s ++ ": " ++ reason)
  | "-fstype" | "-context" => some do
    let _ ← argument "-fstype"
    return .never
  | "-nouser" | "-nogroup" | "-false" => some (return .never)
  | "-true" | "-readable" | "-writable" => some (return .always)
  | "-executable" => some (return .mayRun)
  | _ => none
where
  kinds (name : String) (turned : Bool) : Reader Condition := do
    match kindLetters name (← argument name) with
    | .ok letters  => return .kinds turned letters
    | .error fault => throw fault
  number (name : String) (c : Ordering → Nat → Condition) : Reader Condition := do
    let (order, n) ← comparedNumber name
    return c order n

/-- What a name asks of the size, the permissions and the times of a file. -/
def stateTest? (name : String) : Option (Reader Condition) :=
  match name with
  | "-empty" => some (return .empty)
  | "-size"  => some sizeCondition
  | "-perm"  => some modeCondition
  | "-mtime" | "-atime" | "-ctime" => some (ageCondition name true)
  | "-mmin" | "-amin" | "-cmin"    => some (ageCondition name false)
  | "-newer" | "-anewer" | "-cnewer" => some (newerThan name)
  | "-used" => some do
    let _ ← comparedNumber name
    return .never
  | _ =>
    match name.toList.drop 6, name.startsWith "-newer" with
    | [x, y], true =>
      if "aBcm".toList.contains x && "aBcmt".toList.contains y then
        some (if y = 't' then newerThanMoment name else newerThan name)
      else some (throw ("invalid predicate " ++ ticked name))
    | _, _ => none

/-- What a name does with a file. -/
def action? : String → Option (Reader Condition)
  | "-print"   => some (doing (.print none '\n'))
  | "-print0"  => some (doing (.print none '\x00'))
  | "-printf"  => some do doing (.format none (← formatArgument "-printf"))
  | "-ls"      => some (doing (.list none))
  | "-fprint"  => some do doing (.print (← outletArgument "-fprint") '\n')
  | "-fprint0" => some do doing (.print (← outletArgument "-fprint0") '\x00')
  | "-fls"     => some do doing (.list (← outletArgument "-fls"))
  | "-fprintf" => some do
    let out ← outletArgument "-fprintf"
    doing (.format out (← formatArgument "-fprintf"))
  | "-delete" => some do
    adjust ({ · with inside := true, deletes := true })
    doing .delete
  | "-prune" => some do
    adjust ({ · with prunes := true })
    return .prune
  | "-quit"    => some (doing .quit)
  | "-exec"    => some (runCondition "-exec" false false)
  | "-execdir" => some (runCondition "-execdir" true false)
  | "-ok"      => some (runCondition "-ok" false true)
  | "-okdir"   => some (runCondition "-okdir" true true)
  | _          => none

/-- Whether a word looks like a part of the conditions; some words do only behind others. -/
def isCondition (isFirst : Bool) (w : String) : Bool :=
  match w.toList with
  | '-' :: _ :: _ => true
  | ['('] | ['!'] => true
  | [')'] | [','] => !isFirst
  | _             => false

/-- The conditions that take a pattern. -/
def patternNames : List String :=
  ["-name", "-iname", "-path", "-ipath", "-wholename", "-iwholename", "-lname", "-ilname"]

/-- The signs of all words. -/
def signs : (fuel : Nat) → (last : String) → Reader (List Sign)
  | 0, _ => return []
  | fuel + 1, last => do
    match ← nextWord? with
    | none => return []
    | some w =>
      let sign ← match w with
        | "("  => pure Sign.opening
        | ")"  => pure .closing
        | ","  => pure .comma
        | "!" | "-not" => pure (.not w)
        | "-a" | "-and" => pure (.and w)
        | "-o" | "-or"  => pure (.or w)
        | _ =>
          if !isCondition false w then
            let hint ← act (do
              if patternNames.contains last && (← look false w).toOption.isSome then
                return "\nfind: possible unquoted pattern after predicate " ++ ticked last ++ "?"
              else return "")
            throw ("paths must precede expression: " ++ ticked w ++ hint)
          match setting? w with
          | some set =>
            set
            pure (.condition .always)
          | none =>
            match [nameTest? w, stateTest? w, action? w].findSome? id with
            | some read => pure (.condition (← read))
            | none      => throw ("unknown predicate " ++ ticked w)
      return sign :: (← signs fuel w)

/-! ### Operators -/

/-- What was read, and the signs behind it. -/
abbrev Parsed := Except String (Condition × List Sign)

mutual

/-- Conditions with commas between them; before them stands an operator or a parenthesis. -/
def readAll : (fuel : Nat) → (before : Option String) → List Sign → Parsed
  | 0, _, ss => .ok (.always, ss)
  | fuel + 1, before, ss => do
    let (c, rest) ← readOr fuel before ss
    moreAll fuel c rest

def moreAll : (fuel : Nat) → Condition → List Sign → Parsed
  | 0, c, ss => .ok (c, ss)
  | fuel + 1, c, ss =>
    match ss with
    | .comma :: rest => do
      let (d, rest) ← readOr fuel (some ",") rest
      moreAll fuel (.both c d) rest
    | _ => .ok (c, ss)

/-- Conditions of which one has to hold. -/
def readOr : (fuel : Nat) → (before : Option String) → List Sign → Parsed
  | 0, _, ss => .ok (.always, ss)
  | fuel + 1, before, ss => do
    let (c, rest) ← readAnd fuel before ss
    moreOr fuel c rest

def moreOr : (fuel : Nat) → Condition → List Sign → Parsed
  | 0, c, ss => .ok (c, ss)
  | fuel + 1, c, ss =>
    match ss with
    | .or word :: rest => do
      let (d, rest) ← readAnd fuel (some word) rest
      moreOr fuel (.or c d) rest
    | _ => .ok (c, ss)

/-- Conditions that all have to hold. -/
def readAnd : (fuel : Nat) → (before : Option String) → List Sign → Parsed
  | 0, _, ss => .ok (.always, ss)
  | fuel + 1, before, ss => do
    let (c, rest) ← readUnit fuel before ss
    moreAnd fuel c rest

def moreAnd : (fuel : Nat) → Condition → List Sign → Parsed
  | 0, c, ss => .ok (c, ss)
  | fuel + 1, c, ss =>
    match ss with
    | .and word :: rest => do
      let (d, rest) ← readUnit fuel (some word) rest
      moreAnd fuel (.and c d) rest
    | .condition _ :: _ | .not _ :: _ | .opening :: _ => do
      let (d, rest) ← readUnit fuel (some "-a") ss
      moreAnd fuel (.and c d) rest
    | _ => .ok (c, ss)

/-- One condition, which may be negated or in parentheses. -/
def readUnit : (fuel : Nat) → (before : Option String) → List Sign → Parsed
  | 0, _, ss => .ok (.always, ss)
  | fuel + 1, before, ss =>
    let operator (word : String) : Parsed :=
      .error ("invalid expression; you have used a binary operator '" ++ word ++
        "' with nothing before it.")
    match ss with
    | [] => .error ("expected an expression after '" ++ before.getD "(" ++ "'")
    | .condition c :: rest => .ok (c, rest)
    | .and word :: _ | .or word :: _ => operator word
    | .comma :: _ => operator ","
    | .closing :: _ =>
      match before with
      | some word => .error ("expected an expression between '" ++ word ++ "' and ')'")
      | none      => .error "invalid expression; you have too many ')'"
    | .not word :: rest => (readUnit fuel (some word) rest).map fun (c, rest) => (.not c, rest)
    | .opening :: rest =>
      match rest with
      | [] => .error ("invalid expression; expected to find a ')' but didn't see one. " ++
          "Perhaps you need an extra predicate after '('")
      | .closing :: _ => .error "invalid expression; empty parentheses are not allowed."
      | _ => do
        let (c, rest) ← readAll fuel none rest
        match rest with
        | .closing :: rest => return (c, rest)
        | _ => throw ("invalid expression; I was expecting to find a ')' somewhere but did not see one.")

end

/-- The condition of all signs. -/
def conditionOf (ss : List Sign) : Except String Condition := do
  if ss.isEmpty then return .always
  let (c, rest) ← readAll (8 * ss.length + 8) none ss
  if rest.isEmpty then return c else throw "you have too many ')'"

end BoardConsole.Shell.Search
