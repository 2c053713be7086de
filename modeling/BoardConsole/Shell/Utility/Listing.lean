import BoardConsole.Shell.Utility.Count
import BoardConsole.Shell.Utility.Date
import BoardConsole.Shell.Utility.Entries
import BoardConsole.Shell.Utility.Names
import BoardConsole.Shell.Utility.Version

/-!
# Shell — Listings

`ls` lists files and directories: one name in each line, in columns, with commas or with all that is
known of each.
-/

namespace BoardConsole.Shell.Utility

open Act

/-! ### Sizes -/

/-- How often a base goes into a number, and what is left: the power and the number divided by it,
rounded up to tenths. -/
def scaled (base : Nat) (n : Nat) : (fuel : Nat) → (power : Nat) → Nat × Nat
  | 0, power => (power, n * 10)
  | fuel + 1, power =>
    if n < Nat.pow base (power + 1) then
      let unit := Nat.pow base power
      let tenths := (n * 10 + unit - 1) / unit
      let tenths := if tenths < 100 && 0 < power then tenths else (n + unit - 1) / unit * 10
      if tenths = base * 10 then (power + 1, 10) else (power, tenths)
    else scaled base n fuel (power + 1)

/-- A size as people read it, rounded up: with one place where it is less than ten units. -/
def readableSize (base : Nat) (n : Nat) : String :=
  let (power, tenths) := scaled base n 10 0
  let letters := if base = 1000 then ["", "k", "M", "G", "T", "P", "E", "Z", "Y", "R", "Q"]
    else ["", "K", "M", "G", "T", "P", "E", "Z", "Y", "R", "Q"]
  if power = 0 then toString n
  else
    (if tenths < 100 then toString (tenths / 10) ++ "." ++ toString (tenths % 10)
     else toString (tenths / 10)) ++ letters.getD power ""

/-- How sizes are shown. -/
inductive SizeForm where
  /-- In units, rounded up, with a sign for the unit. -/
  | units (size : Nat) (sign : String)
  /-- As people read them, with powers of a base. -/
  | readable (base : Nat)
deriving DecidableEq, Repr

def SizeForm.shown (f : SizeForm) (bytes : Nat) : String :=
  match f with
  | units size sign => toString ((bytes + size - 1) / size) ++ sign
  | readable base   => readableSize base bytes

/-! ### Options -/

/-- The shape of a listing. -/
inductive Shape where
  | long
  | single
  | commas
  | down
  | across
deriving DecidableEq, Repr

/-- Which names are listed: without those that begin with a point, with all of them but `.` and `..`,
or with these too. -/
inductive Hidden where
  | left
  | most
  | all
deriving DecidableEq, Repr

/-- What names are sorted by. -/
inductive ListedBy where
  | name
  | none
  | time
  | size
  | ending
  | version
  | width
deriving DecidableEq, Repr

/-- Which names have a mark for their kind. -/
inductive Marking where
  | none
  | directories
  | kinds
  | all
deriving DecidableEq, Repr

/-- Which links are followed. -/
inductive ListedLinks where
  | never
  | operands
  | directoryOperands
  | always
deriving DecidableEq, Repr

/-- How a listing is made. -/
structure Listing where
  shape         : Shape := .single
  hidden        : Hidden := .left
  ignored       : List String := []
  hiddenNames   : List String := []
  key           : ListedBy := .name
  /-- Whether the key was given. -/
  sorts         : Bool := false
  reversed      : Bool := false
  grouped       : Bool := false
  quoting       : Quoting := .literal
  masks         : Bool := false
  marking       : Marking := .none
  following     : Option ListedLinks := none
  showsNumber   : Bool := false
  showsBlocks   : Bool := false
  /-- The form of sizes, and that of blocks. -/
  sizes         : SizeForm := .units 1 ""
  blocks        : SizeForm := .units 1024 ""
  showsOwner    : Bool := true
  showsGroup    : Bool := true
  showsAuthor   : Bool := false
  showsContext  : Bool := false
  numeric       : Bool := false
  asEntries     : Bool := false
  recursive     : Bool := false
  timeStyle     : String := "locale"
  width         : Nat := 80
  tabSize       : Nat := 8
  ending        : String := "\n"

def lsUsage : Usage :=
  { program := "ls"
    letters := "aAbBcCdDfFgGhHiI:klLmnNopqQrRsStT:uUvw:xXZ1αβ:γ::δεζ:ηθ:κ:λ::μξ:πρσ:τ:υ:φωψ"
    misuse := 2
    names := [("all", 'a'), ("almost-all", 'A'), ("author", 'α'), ("block-size", 'β'),
      ("classify", 'γ'), ("color", 'λ'), ("context", 'Z'), ("dereference", 'L'),
      ("dereference-command-line", 'H'), ("dereference-command-line-symlink-to-dir", 'δ'),
      ("directory", 'd'), ("dired", 'D'), ("escape", 'b'), ("file-type", 'ε'), ("format", 'ζ'),
      ("full-time", 'η'), ("group-directories-first", 'φ'), ("hide", 'θ'), ("human-readable", 'h'),
      ("hyperlink", 'μ'), ("ignore", 'I'), ("ignore-backups", 'B'), ("indicator-style", 'κ'),
      ("inode", 'i'), ("kibibytes", 'k'), ("literal", 'N'), ("no-group", 'G'),
      ("numeric-uid-gid", 'n'), ("hide-control-chars", 'q'), ("quote-name", 'Q'),
      ("quoting-style", 'ξ'), ("recursive", 'R'), ("reverse", 'r'), ("show-control-chars", 'π'),
      ("si", 'ρ'), ("size", 's'), ("sort", 'σ'), ("tabsize", 'T'), ("time", 'τ'),
      ("time-style", 'υ'), ("width", 'w'), ("zero", 'ω')] }

def sortWords : List (List String × ListedBy) :=
  [(["none"], .none), (["time"], .time), (["size"], .size), (["extension"], .ending),
   (["version"], .version), (["width"], .width)]

def shapeWords : List (List String × Shape) :=
  [(["verbose", "long"], .long), (["commas"], .commas), (["horizontal", "across"], .across),
   (["vertical"], .down), (["single-column"], .single)]

def markingWords : List (List String × Marking) :=
  [(["none"], .none), (["slash"], .directories), (["file-type"], .kinds), (["classify"], .all)]

def whenWords : List (List String × Bool) :=
  [(["always", "yes", "force"], true), (["never", "no", "none"], false),
   (["auto", "tty", "if-tty"], false)]

def timeWords : List (List String × Unit) :=
  [(["atime", "access", "use"], ()), (["ctime", "status"], ()), (["mtime", "modification"], ()),
   (["birth", "creation"], ())]

def quotingWords : List (List String × Quoting) := Quoting.named.map fun (name, q) => ([name], q)

/-- Why an option makes no sense. -/
inductive ListingFault where
  /-- A word that is not among those that are known. -/
  | word (option word : String) (known : List (List String))
  | message (text : String)

/-- The meaning of a word of an option. -/
def wordOf {α : Type} (option word : String) (known : List (List String × α)) : Except ListingFault α :=
  match wordMeant? (known.flatMap fun (words, a) => words.map (·, a)) word with
  | some a => .ok a
  | none   => .error (.word option word (known.map (·.1)))

/-- The number of columns of an option. -/
def widthOf (what s : String) : Except ListingFault Nat :=
  match s.toNat? with
  | some n => .ok n
  | none   => .error (.message ("invalid " ++ what ++ ": " ++ cited s))

/-- A unit of sizes. -/
def sizeFormOf (s : String) : Except ListingFault SizeForm :=
  if s = "human-readable" then .ok (.readable 1024)
  else if s = "si" then .ok (.readable 1000)
  else
    let counts : Bool := (s.toList.head?).any Char.isDigit
    let unit := if counts then s else "1" ++ s
    match sizeValue? unit with
    | some n => if n = 0 then .error (.message ("invalid --block-size argument " ++ cited s))
      else .ok (.units n (if counts then "" else if s = "KB" then "kB" else s))
    | none => .error (.message ("invalid --block-size argument " ++ cited s))

/-- A listing with one more option. -/
def Listing.with (l : Listing) (letter : Char) (value : String) : Except ListingFault Listing := do
  match letter with
  | 'a' => return { l with hidden := .all }
  | 'A' => return { l with hidden := .most }
  | 'b' => return { l with quoting := .bare [' '] }
  | 'B' => return { l with ignored := "*~" :: ".*~" :: l.ignored }
  | 'C' => return { l with shape := .down }
  | 'd' => return { l with asEntries := true }
  | 'f' =>
    return { l with
      hidden := .all, key := .none, sorts := true, showsBlocks := false
      shape := if l.shape = .long then .single else l.shape }
  | 'F' => return { l with marking := .all }
  | 'γ' =>
    let on ← if value = "" then pure true else wordOf "--classify" value whenWords
    return { l with marking := if on then .all else .none }
  | 'g' => return { l with shape := .long, showsOwner := false }
  | 'G' => return { l with showsGroup := false }
  | 'h' => return { l with sizes := .readable 1024, blocks := .readable 1024 }
  | 'H' => return { l with following := some .operands }
  | 'δ' => return { l with following := some .directoryOperands }
  | 'i' => return { l with showsNumber := true }
  | 'I' => return { l with ignored := value :: l.ignored }
  | 'θ' => return { l with hiddenNames := value :: l.hiddenNames }
  | 'k' => return { l with blocks := .units 1024 "" }
  | 'l' => return { l with shape := .long }
  | 'L' => return { l with following := some .always }
  | 'm' => return { l with shape := .commas }
  | 'n' => return { l with shape := .long, numeric := true }
  | 'N' => return { l with quoting := .literal }
  | 'o' => return { l with shape := .long, showsGroup := false }
  | 'p' => return { l with marking := .directories }
  | 'q' => return { l with masks := true }
  | 'π' => return { l with masks := false }
  | 'Q' => return { l with quoting := .double true }
  | 'r' => return { l with reversed := true }
  | 'R' => return { l with recursive := true }
  | 's' => return { l with showsBlocks := true }
  | 'S' => return { l with key := .size, sorts := true }
  | 't' => return { l with key := .time, sorts := true }
  | 'U' => return { l with key := .none, sorts := true }
  | 'v' => return { l with key := .version, sorts := true }
  | 'X' => return { l with key := .ending, sorts := true }
  | 'c' | 'u' => return if l.sorts || l.shape = .long then l else { l with key := .time }
  | 'x' => return { l with shape := .across }
  | 'Z' => return { l with showsContext := true }
  | '1' => return if l.shape = .long then l else { l with shape := .single }
  | 'w' => return { l with width := ← widthOf "line width" value }
  | 'T' => return { l with tabSize := ← widthOf "tab size" value }
  | 'α' => return { l with showsAuthor := true }
  | 'β' =>
    let form ← sizeFormOf value
    return { l with sizes := form, blocks := form }
  | 'ε' => return { l with marking := .kinds }
  | 'ζ' => return { l with shape := ← wordOf "--format" value shapeWords }
  | 'η' => return { l with shape := .long, timeStyle := "full-iso" }
  | 'λ' | 'μ' =>
    let option := if letter = 'λ' then "--color" else "--hyperlink"
    let _ ← if value = "" then pure true else wordOf option value whenWords
    return l
  | 'κ' => return { l with marking := ← wordOf "--indicator-style" value markingWords }
  | 'ξ' => return { l with quoting := ← wordOf "--quoting-style" value quotingWords }
  | 'ρ' => return { l with sizes := .readable 1000, blocks := .readable 1000 }
  | 'σ' => return { l with key := ← wordOf "--sort" value sortWords, sorts := true }
  | 'τ' =>
    wordOf "--time" value timeWords
    return if l.sorts || l.shape = .long then l else { l with key := .time }
  | 'υ' => return { l with timeStyle := value }
  | 'φ' => return { l with grouped := true }
  | 'ω' => return { l with
      ending := "\x00", shape := if l.shape = .long then .long else .single, quoting := .literal }
  | _ => return l

/-- The formats for times long past and for those of late. -/
def Listing.timeFormats (l : Listing) : Except ListingFault (String × String) :=
  let style := l.timeStyle
  match style.toList with
  | '+' :: format =>
    match (String.ofList format).splitOn "\n" with
    | [old, recent] => .ok (old, recent)
    | parts         => .ok (parts.headD "", parts.headD "")
  | _ =>
    if style.startsWith "posix-" then .ok ("%b %e  %Y", "%b %e %H:%M")
    else
      wordOf "time style" style
        [(["full-iso"], ("%Y-%m-%d %H:%M:%S.%N %z", "%Y-%m-%d %H:%M:%S.%N %z")),
         (["long-iso"], ("%Y-%m-%d %H:%M", "%Y-%m-%d %H:%M")),
         (["iso"], ("%Y-%m-%d ", "%m-%d %H:%M")),
         (["locale"], ("%b %e  %Y", "%b %e %H:%M"))]

/-! ### Names -/

/-- The mark after a name that shows its kind. -/
def Entry.mark (e : Entry) (marking : Marking) : String :=
  match e.kind with
  | .directory => if marking = .none then "" else "/"
  | .link      => if marking = .kinds || marking = .all then "@" else ""
  | .pipe      => if marking = .kinds || marking = .all then "|" else ""
  | .file      => if marking = .all && mayRun e.mode then "*" else ""
  | .device    => ""

/-- A name as it is shown. -/
def Listing.shownName (l : Listing) (s : String) : String :=
  let s := if l.masks && l.quoting = .literal then s.map fun c => if isPrinted c then c else '?' else s
  match l.quoting with
  | .bare others =>
    let marks := match l.marking with
      | .none        => []
      | .directories => []
      | .kinds       => ['=', '>', '@', '|']
      | .all         => ['*', '=', '>', '@', '|']
    Quoting.apply (.bare (others ++ marks)) s
  | q => q.apply s

/-- The name of a directory above what is in it. -/
def Listing.title (l : Listing) (s : String) : String :=
  match l.quoting with
  | .bare _ => Quoting.apply (.bare [':']) s
  | q       => q.apply s

/-- The order of two entries by the key. -/
def Listing.compareBy (l : Listing) (x y : Entry) : Ordering :=
  let names := compare x.name y.name
  match l.key with
  | .name    => names
  | .none    => .eq
  | .time    => (compare y.time x.time).then names
  | .size    => (compare y.size x.size).then names
  | .width   => (compare x.name.length y.name.length).then names
  | .version => (Version.compareNames x.name.toList y.name.toList).then names
  | .ending  =>
    let ending (s : String) : String :=
      match splitLast '.' s.toList with
      | some (_, last) => "." ++ String.ofList last
      | none           => ""
    (compare (ending x.name) (ending y.name)).then names

/-- Entries in their order. -/
def Listing.sorted (l : Listing) (entries : List Entry) : List Entry :=
  if l.key = .none then entries
  else
    let isBefore (x y : Entry) : Bool :=
      let first (e : Entry) : Nat := if l.grouped && e.kind != .directory then 1 else 0
      let order := if l.reversed then l.compareBy y x else l.compareBy x y
      ((compare (first x) (first y)).then order) != .gt
    entries.mergeSort isBefore

/-! ### Lines -/

/-- The widths of the fields of a listing. -/
structure FieldWidths where
  number : Nat
  blocks : Nat
  links  : Nat
  size   : Nat
  minor  : Nat

/-- The greatest length of some texts. -/
def greatestLength (texts : List String) : Nat := texts.foldl (fun n s => max n s.length) 0

/-- The blocks of an entry as they are shown. -/
def Listing.blocksOf (l : Listing) (e : Entry) : String := l.blocks.shown (e.blocks * 512)

/-- The widths that entries need. -/
def Listing.widths (l : Listing) (entries : List Entry) : FieldWidths :=
  let devices := entries.filter (·.kind = .device)
  let numbers := devices.map fun e => deviceNumbers e.path
  let major := greatestLength (numbers.map fun p => toString p.1)
  let minor := greatestLength (numbers.map fun p => toString p.2)
  let others := entries.filter (·.kind != .device)
  let size := greatestLength (others.map fun e => l.sizes.shown e.size)
  { number := greatestLength (entries.map fun e => toString e.number)
    blocks := greatestLength (entries.map l.blocksOf)
    links  := greatestLength (entries.map fun e => toString e.links)
    size   := if devices.isEmpty then size else max size (major + 2 + minor)
    minor }

/-- The fields in front of a name that any shape can have. -/
def Listing.front (l : Listing) (w : FieldWidths) (e : Entry) : String :=
  let pad (n : Nat) (s : String) : String := if l.shape = .commas then s else padLeft n s
  (if l.showsNumber then pad w.number (toString e.number) ++ " " else "") ++
    (if l.showsBlocks then pad w.blocks (l.blocksOf e) ++ " " else "") ++
    (if l.showsContext && l.shape != .long then "? " else "")

/-- An entry with its name and what stands around it. -/
def Listing.short (l : Listing) (w : FieldWidths) (e : Entry) : String :=
  l.front w e ++ l.shownName e.name ++ e.mark l.marking

/-- How long ago a time is of late: half a year. -/
def halfYear : Int := 31556952 / 2 * nanosInSecond

/-- How moments are shown: the present one, the zone, and the formats. -/
structure Clock where
  now    : Int
  zone   : Zone
  old    : String
  recent : String

/-- A line with all that is known of an entry. The target of a link has a mark of its own. -/
def Listing.line (l : Listing) (c : Clock) (w : FieldWidths) (targetMark : String) (e : Entry) :
    String :=
  let isRecent : Bool := c.now - halfYear < e.time && e.time < c.now
  let time := (Moment.ofNanos c.zone e.time).format (if isRecent then c.recent else c.old)
  let owner := if l.numeric then "0" else "root"
  let size := match e.kind with
    | .device =>
      let (major, minor) := deviceNumbers e.path
      padLeft (w.size - 2 - w.minor) (toString major) ++ ", " ++ padLeft w.minor (toString minor)
    | _ => padLeft w.size (l.sizes.shown e.size)
  let name := l.shownName e.name ++
    (if e.kind = .link then " -> " ++ l.shownName e.target ++ targetMark else e.mark l.marking)
  l.front w e ++ e.permissions ++ " " ++ padLeft w.links (toString e.links) ++ " " ++
    (if l.showsOwner then owner ++ " " else "") ++ (if l.showsGroup then owner ++ " " else "") ++
    (if l.showsAuthor then owner ++ " " else "") ++ (if l.showsContext then "? " else "") ++
    size ++ " " ++ time ++ " " ++ name

/-! ### Columns -/

/-- The space from one place to another, with tabs where they reach a stop. -/
def Listing.space (l : Listing) : (fuel : Nat) → (start stop : Nat) → String
  | 0, _, _ => ""
  | fuel + 1, start, stop =>
    if stop ≤ start then ""
    else if l.tabSize != 0 && (start + 1) / l.tabSize < stop / l.tabSize then
      "\t" ++ l.space fuel (start + l.tabSize - start % l.tabSize) stop
    else " " ++ l.space fuel (start + 1) stop

/-- The least width of a column. -/
def leastColumn : Nat := 3

/-- The widths of some number of columns; all but the last have two blanks behind them. -/
def columnWidths (byColumns : Bool) (count : Nat) (lengths : List Nat) : List Nat :=
  let rows := (lengths.length + count - 1) / count
  let widths := lengths.zipIdx.foldl
    (fun (widths : Array Nat) (length, n) =>
      let column := if byColumns then n / rows else n % count
      widths.modify column (max (length + (if column + 1 = count then 0 else 2))))
    (Array.replicate count leastColumn)
  widths.toList

/-- The greatest number of columns that fit into a line, and their widths. -/
def fittingColumns (byColumns : Bool) (width : Nat) (lengths : List Nat) : (most : Nat) → List Nat
  | 0     => []
  | n + 1 =>
    let widths := columnWidths byColumns (n + 1) lengths
    if n = 0 || widths.sum < width then widths else fittingColumns byColumns width lengths n

/-- A row of columns. -/
def Listing.row (l : Listing) : (place : Nat) → List (String × Nat) → String
  | _, [] => ""
  | _, [(text, _)] => text
  | place, (text, width) :: rest =>
    text ++ l.space (width + 1) (place + text.length) (place + width) ++ l.row (place + width) rest

/-- Texts in columns. -/
def Listing.columns (l : Listing) (texts : List String) : String :=
  let byColumns : Bool := l.shape = .down
  let most := min texts.length ((l.width + 2) / leastColumn)
  let widths := fittingColumns byColumns l.width (texts.map String.length) most
  let count := max 1 widths.length
  let rows := (texts.length + count - 1) / count
  let items := texts.toArray
  let rowOf (r : Nat) : String :=
    let places := (List.range count).map fun c => if byColumns then c * rows + r else r * count + c
    let cells := (places.zip widths).filterMap fun (n, width) => (items[n]?).map (·, width)
    l.row 0 cells ++ l.ending
  String.join ((List.range rows).map rowOf)

/-- Texts with commas between them, broken where a line is full. -/
def Listing.withCommas (l : Listing) : (place : Nat) → List String → String
  | _, [] => l.ending
  | place, text :: rest =>
    let place := place + text.length
    match rest with
    | [] => text ++ l.ending
    | next :: _ =>
      if l.width = 0 || place + next.length + 2 < l.width then
        text ++ ", " ++ l.withCommas (place + 2) rest
      else text ++ "," ++ l.ending ++ l.withCommas 0 rest

/-- Entries as they are listed, in fields of some widths. -/
def Listing.entries (l : Listing) (c : Clock) (w : FieldWidths) (targetMark : Entry → String)
    (entries : List Entry) : String :=
  let sorted := l.sorted entries
  if sorted.isEmpty then ""
  else
    match l.shape with
    | .long   => String.join (sorted.map fun e => l.line c w (targetMark e) e ++ l.ending)
    | .single => String.join (sorted.map fun e => l.short w e ++ l.ending)
    | .commas => l.withCommas 0 (sorted.map (l.short w))
    | .down | .across =>
      let texts := sorted.map (l.short w)
      if l.width = 0 then "  ".intercalate texts ++ l.ending else l.columns texts

/-! ### Directories -/

/-- The mark of what a link leads to. -/
def Listing.targetMarks (l : Listing) (entries : List Entry) : Act (List (Path × String)) := do
  if l.shape != .long || l.marking = .none then return []
  let v ← volume
  return entries.filterMap fun e =>
    if e.kind != .link then none
    else
      match v.resolve true (v.parent e.path) (toWorld e.target) with
      | .error _ => none
      | .ok path =>
        (kindAt? v path).map fun kind =>
          (e.path, Entry.mark ⟨"", kind, path, 0, 0, modeAt v path, 0, 0, ""⟩ l.marking)

/-- Entries as they are listed, with what their links lead to. -/
def Listing.shown (l : Listing) (c : Clock) (w : FieldWidths) (entries : List Entry) : Act String := do
  let marks ← l.targetMarks entries
  return l.entries c w (fun e => (marks.lookup e.path).getD "") entries

/-- What something in a directory is, where links are followed if that is wanted. -/
def Listing.entryIn (l : Listing) (name : String) (path : Path) : Act Entry := do
  let v ← volume
  let kind := (kindAt? v path).getD .file
  if l.following = some .always && kind = .link then
    match v.resolve true [] (Volume.nameOf (v.absolute path)) with
    | .ok there =>
      match kindAt? v there with
      | some kind => return ← entryOf name kind there
      | none      => entryOf name .link path
    | .error _ => entryOf name .link path
  else entryOf name kind path

/-- The entries of a directory that are listed. -/
def Listing.entriesIn (l : Listing) (path : Path) : Act (List Entry) := do
  let v ← volume
  let fits (p name : String) : Bool := Pattern.isMatch (Pattern.ofString p) name.toList
  let isShown (name : String) : Bool :=
    (l.hidden != .left || (!name.startsWith "." && !l.hiddenNames.any (fits · name))) &&
      !l.ignored.any fun p => (!name.startsWith "." || p.startsWith ".") && fits p name
  let inside ← ((← namesIn path).filter isShown).mapM fun name =>
    l.entryIn name (v.normal (path ++ [toWorld name]))
  if l.hidden != .all then return inside
  let here ← entryOf "." .directory path
  let above ← entryOf ".." .directory (v.parent path)
  return here :: above :: inside

/-- A directory as it is listed, with those below it where that is wanted. The first one has no empty
line before it. -/
def Listing.directory (l : Listing) (c : Clock) (titled : Bool) : (fuel : Nat) → (isFirst : Bool) →
    String → Path → Act String
  | 0, _, _, _ => return ""
  | fuel + 1, isFirst, name, path => do
    let entries ← l.entriesIn path
    let blocks := entries.foldl (fun n e => n + e.blocks) 0
    let start := if titled then (if isFirst then "" else "\n") ++ l.title name ++ ":\n" else ""
    let total := if l.shape = .long || l.showsBlocks then
        "total " ++ l.blocks.shown (blocks * 512) ++ l.ending
      else ""
    let own := start ++ total ++ (← l.shown c (l.widths entries) entries)
    if !l.recursive then return own
    let inside := (l.sorted entries).filter fun e =>
      e.kind = .directory && e.name != "." && e.name != ".."
    let parts ← inside.mapM fun e => l.directory c true fuel false (below name e.name) e.path
    return own ++ String.join parts

/-- What an operand names. -/
def Listing.operand (l : Listing) (name : String) : Act (Except String (Kind × Path)) := do
  let following := l.following.getD
    (if l.asEntries || l.marking = .all || l.shape = .long then .never else .directoryOperands)
  match following with
  | .never => look false name
  | .operands | .always => look true name
  | .directoryOperands =>
    match ← look true name with
    | .ok (.directory, path) => return .ok (.directory, path)
    | _                      => look false name

/-- Lists files and directories as arguments say. -/
def list (u : Usage) (a : Arguments) : Act Nat := do
  let refuse (fault : ListingFault) : Act Nat := do
    match fault with
    | .message text =>
      u.complain text
      return 2
    | .word "time style" word _ =>
      u.complain ("invalid argument " ++ cited word ++ " for 'time style'")
      complain ("Valid arguments are:\n  - [posix-]full-iso\n  - [posix-]long-iso\n  - [posix-]iso\n" ++
        "  - [posix-]locale\n  - +FORMAT (e.g., +%H:%M) for a 'date'-style format")
      complain u.hint
      return 2
    | .word option word known => refuseWordAmong u option word known
  let width := ((← environment).lookup "COLUMNS").bind String.toNat?
  let usual : Listing := { width := width.getD 80 }
  match a.options.foldlM (fun (l : Listing) (letter, value) => l.with letter value) usual with
  | .error fault => refuse fault
  | .ok l =>
    match l.timeFormats with
    | .error fault => refuse fault
    | .ok (old, recent) =>
      let c : Clock := ⟨← presentNanos, ← currentZone, old, recent⟩
      let mut files := []
      let mut directories := []
      let mut failed := false
      for name in if a.rest.isEmpty then ["."] else a.rest do
        match ← l.operand name with
        | .error reason =>
          u.complain ("cannot access " ++ quoted name ++ ": " ++ reason)
          failed := true
        | .ok (kind, path) =>
          let e ← entryOf name kind path
          if kind = .directory && !l.asEntries then directories := e :: directories
          else files := e :: files
      let fileText ← l.shown c (l.widths (files ++ directories)) files.reverse
      let titled : Bool := a.rest.length > 1 || l.recursive
      let mut text := fileText
      let mut isFirst := true
      for e in l.sorted directories.reverse do
        if isFirst && !files.isEmpty then text := text ++ "\n"
        text := text ++ (← l.directory c titled greatestTreeDepth isFirst e.name e.path)
        isFirst := false
      let n ← printChecked u.program text
      return if failed then 2 else n

/-- Lists files and directories, under some name and with options that stand before all others. -/
def listAs (program : String) (options : List String) : Builtin := fun _ args =>
  let u := { lsUsage with program }
  u.run (options ++ args) (list u)

end BoardConsole.Shell.Utility
