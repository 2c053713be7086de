import BoardConsole.Shell.Utility.Find
import BoardConsole.Shell.Utility.Grep
import BoardConsole.Shell.Utility.Listing

/-!
# Shell — Space that files take

`du` adds up the space of files below directories. A file with several names counts once.
-/

namespace BoardConsole.Shell.Utility

open Act

def duUsage : Usage :=
  { program := "du", letters := "0aB:bchHklmDLPsSt:xX:d:α:βγι", misuse := 1
    names := [("all", 'a'), ("apparent-size", 'β'), ("block-size", 'B'), ("bytes", 'b'),
      ("count-links", 'l'), ("dereference", 'L'), ("dereference-args", 'D'), ("exclude", 'α'),
      ("exclude-from", 'X'), ("human-readable", 'h'), ("inodes", 'ι'), ("max-depth", 'd'),
      ("null", '0'), ("no-dereference", 'P'), ("one-file-system", 'x'), ("separate-dirs", 'S'),
      ("si", 'γ'), ("summarize", 's'), ("total", 'c'), ("threshold", 't')] }

/-- What is counted, and what is shown. -/
structure SpaceCount where
  /-- What a file counts for. -/
  weight    : Entry → Nat
  form      : Nat → String
  /-- How deep directories are shown, and whether other files are shown too. -/
  depth     : Option Nat
  showsAll  : Bool
  /-- Whether a directory does not count those in it. -/
  separate  : Bool
  /-- Whether files count under each of their names, and whether directories count once only. -/
  repeats   : Bool
  once      : Bool
  follows   : Bool
  excluded  : List String
  /-- The least or the greatest amount that is shown. -/
  threshold : Option Int
  ending    : String

/-- What has been counted: the numbers of files, and the lines, the last first. -/
structure SpaceState where
  seen  : List Nat
  lines : List String

/-- Steps that count. -/
abbrev Counter := StateT SpaceState Act

/-- Whether an amount is shown. -/
def SpaceCount.reaches (s : SpaceCount) (n : Nat) : Bool :=
  match s.threshold with
  | none   => true
  | some t => if t < 0 then (n : Int) ≤ -t else t ≤ n

/-- Counts a file and what lies below it; answers the sum of it, and how much of that are directories
in it. -/
def SpaceCount.count (s : SpaceCount) : (fuel : Nat) → (level : Nat) → Entry → Counter (Nat × Nat)
  | 0, _, _ => return (0, 0)
  | fuel + 1, level, e => do
    if s.excluded.any fun p => fitsName true p e.name then return (0, 0)
    let isDirectory : Bool := e.kind = .directory
    if !s.repeats && (s.once || (!isDirectory && e.links > 1)) then
      if (← get).seen.contains e.number then return (0, 0)
      modify fun t => { t with seen := e.number :: t.seen }
    let mut inner := 0
    let mut directories := 0
    if isDirectory then
      for name in ← StateT.lift (namesIn e.path) do
        let path := pathIn (← StateT.lift volume) e.path name
        if let some entry ← StateT.lift (Search.entryAt s.follows (below e.name name) path) then
          let (sum, _) ← s.count fuel (level + 1) entry
          if entry.kind = .directory then directories := directories + sum
          inner := inner + sum
    let own := s.weight e
    let shown := own + inner - (if s.separate then directories else 0)
    let visible := level = 0 || ((isDirectory || s.showsAll) && s.depth.all (level ≤ ·))
    if visible && s.reaches shown then
      modify fun t => { t with lines := (s.form shown ++ "\t" ++ e.name ++ s.ending) :: t.lines }
    return (own + inner, directories)

/-- The depth that the arguments ask for, or what is wrong with them. -/
def spaceDepth (a : Arguments) : Except String (Option Nat) := do
  let given ← (a.last? 'd').mapM fun s =>
    if s != "" && s.toList.all Char.isDigit then pure (Arithmetic.valueOf 10 s.toList)
    else throw ("invalid maximum depth " ++ cited s)
  if a.has 's' && a.has 'a' then throw "cannot both summarize and show all entries"
  match given with
  | some (n + 1) =>
    if a.has 's' then
      throw ("warning: summarizing conflicts with --max-depth=" ++ toString (n + 1))
    return given
  | _ => return if a.has 's' then some 0 else given

/-- How amounts are shown; the last option that says so counts. -/
def spaceForm (a : Arguments) : Except ListingFault SizeForm :=
  a.options.foldlM
    (fun form (letter, value) =>
      match letter with
      | 'b' => .ok (.units 1 "")
      | 'k' => .ok (.units 1024 "")
      | 'm' => .ok (.units (Nat.pow 1024 2) "")
      | 'h' => .ok (.readable 1024)
      | 'γ' => .ok (.readable 1000)
      | 'B' => sizeFormOf value
      | _   => .ok form)
    (SizeForm.units 1024 "")

/-- The threshold that the arguments ask for. -/
def spaceThreshold (a : Arguments) : Except String (Option Int) :=
  (a.last? 't').mapM fun s =>
    let (negative, digits) := match s.toList with
      | '-' :: cs => (true, String.ofList cs)
      | _         => (false, s)
    match sizeValue? digits with
    | some n =>
      if negative && n = 0 then throw "invalid -t argument '-0'"
      else pure (if negative then -(n : Int) else n)
    | none => throw ("invalid -t argument " ++ cited s)

/-- Counts what the operands name. -/
def countSpace (a : Arguments) (form : SizeForm) (depth : Option Nat) (threshold : Option Int) :
    Act Nat := do
  let links := (a.options.filter fun o => ['L', 'D', 'H', 'P'].contains o.1).getLast?.map (·.1)
  let names := if a.rest.isEmpty then ["."] else a.rest
  let mut excluded := ((a.options.filter (·.1 = 'α')).map (·.2))
  let mut failed := false
  for file in (a.options.filter (·.1 = 'X')).map (·.2) do
    match ← readInput file with
    | .ok text => excluded := excluded ++ linesOf text
    | .error reason =>
      duUsage.complain (shownName file ++ ": " ++ reason)
      return 1
  let apparent := a.has 'b' || a.has 'β'
  let s : SpaceCount :=
    { weight := fun e => if a.has 'ι' then 1 else if apparent then e.size else e.blocks * 512
      form := if a.has 'ι' then (SizeForm.units 1 "").shown else form.shown
      depth, showsAll := a.has 'a', separate := a.has 'S', repeats := a.has 'l'
      once := names.length > 1 || links.any (· != 'P'), follows := links = some 'L', excluded
      threshold, ending := if a.has '0' then "\x00" else "\n" }
  let mut t : SpaceState := ⟨[], []⟩
  let mut total := 0
  for name in names do
    match ← look (links.any (· != 'P')) name with
    | .error reason =>
      duUsage.complain ("cannot access " ++ quoted name ++ ": " ++ reason)
      failed := true
    | .ok (kind, path) =>
      let ((sum, _), after) ← (s.count greatestTreeDepth 0 (← entryOf name kind path)).run t
      t := after
      total := total + sum
  let lines := if a.has 'c' then (s.form total ++ "\ttotal" ++ s.ending) :: t.lines else t.lines
  finish "du" (String.join lines.reverse) failed

/-- Prints the space that files take. -/
def du : Builtin := fun _ args => duUsage.run args fun a => do
  match spaceForm a, spaceThreshold a, spaceDepth a with
  | .error (.message text), _, _ =>
    duUsage.complain (text.replace "--block-size" "-B")
    return 1
  | .error (.word option word known), _, _ => refuseWordAmong duUsage option word known
  | _, .error message, _ =>
    duUsage.complain message
    return 1
  | _, _, .error message => duUsage.refuse message
  | .ok form, .ok threshold, .ok depth => countSpace a form depth threshold

end BoardConsole.Shell.Utility
