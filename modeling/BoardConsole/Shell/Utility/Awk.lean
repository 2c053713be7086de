import BoardConsole.Shell.Utility.Names
import BoardConsole.Shell.Utility.Scan.Run

/-!
# Shell — Scanning records

The utility `awk`: it runs a program on the records of its inputs. What is to be done before the first
record comes first, and what is to be done after the last one comes at the end, also where the program
is left early.
-/

namespace BoardConsole.Shell.Scan

/-! ### Rules -/

/-- Whether a rule is for the record. -/
def isSelected (c : Setting) (fuel : Nat) : Selection → Run Bool
  | .all    => return true
  | .when e => return (← eval c fuel e).holds
  | .range n first last => do
    let isOpen := (← get).ranges.getD n false
    if !isOpen then
      if !(← eval c fuel first).holds then return false
    let ends := (← eval c fuel last).holds
    modify fun m => { m with ranges := m.ranges.setIfInBounds n !ends }
    return true

/-- Runs rules for the record. -/
def applyRules (c : Setting) (fuel : Nat) : List Rule → Run Unit
  | []        => return
  | r :: more => do
    if ← isSelected c fuel r.selection then execAll c fuel r.body
    applyRules c fuel more

/-- Runs the rules for the record. Answers whether the rest of the input is left out. -/
def applyAll (c : Setting) (fuel : Nat) : Run Bool := do
  try
    applyRules c fuel c.program.rules
    return false
  catch
    | .next     => return false
    | .nextFile => return true
    | other     => throw other

/-- Runs the rules for all records. -/
def scan (c : Setting) : (fuel : Nat) → Run Unit
  | 0 => return
  | fuel + 1 => do
    match ← nextRecord c.program.names with
    | none => return
    | some text =>
      setRecord (.input text)
      if ← applyAll c fuel then
        match (← get).main with
        | some i =>
          let _ ← takeStandard false i
          modify ({ · with main := none })
          advance c.program.names fuel
        | none => pure ()
      scan c fuel

/-- Runs blocks one after another. -/
def execBlocks (c : Setting) (fuel : Nat) : List (List Statement) → Run Unit
  | []      => return
  | b :: bs => do
    execAll c fuel b
    execBlocks c fuel bs

/-- Acts, unless the program is left. -/
def untilExit (act : Run Unit) : Run Unit := do
  try act
  catch
    | .exit => return
    | other => throw other

/-- How deep programs may go. -/
def greatestDepth : Nat := Nat.pow 2 60

/-- Runs a program on its inputs. -/
def runProgram (c : Setting) : Run Unit := do
  let p := c.program
  let before : Run Unit := do
    execBlocks c greatestDepth p.begins
    if !p.rules.isEmpty || !p.ends.isEmpty then scan c greatestDepth
  untilExit before
  untilExit (execBlocks c greatestDepth p.ends)

/-- Ends outputs, those that were used last first. -/
def endOutputs (r : Runner) : List Output → Run Unit
  | []      => return
  | o :: os => do
    let _ ← endOutput r o
    endOutputs r os

/-- Writes what is left, and gives back what was not read. -/
def finish (r : Runner) : Run Unit := do
  settleInputs
  let outputs := (← get).outputs
  modify ({ · with outputs := [] })
  endOutputs r outputs
  flushPrinted

/-! ### Beginning -/

/-- What the standing variables hold at first. -/
def firstCells (names : Array String) : Array Cell :=
  let standing : List (Nat × Cell) :=
    [(atNF, .value (.number 0.0)), (atNR, .value (.number 0.0)), (atFNR, .value (.number 0.0)),
     (atFS, .value (.text " ")), (atOFS, .value (.text " ")), (atORS, .value (.text "\n")),
     (atRS, .value (.text "\n")), (atSUBSEP, .value (.text "\x1c")),
     (atCONVFMT, .value (.text standingFormat)), (atOFMT, .value (.text standingFormat)),
     (atENVIRON, .table atENVIRON), (atARGV, .table atARGV)]
  standing.foldl (fun cells (n, cell) => cells.setIfInBounds n cell)
    (Array.replicate names.size default)

/-- A table of texts by keys. -/
def tableFrom (pairs : List (Key × String)) : Table :=
  pairs.foldl (fun t (key, s) => (t.touch true key).put key (.input s)) .empty

/-- The state at the beginning. -/
def Machine.first (shell : State) (p : Program) (environment : List (String × String))
    (arguments : List String) : Machine :=
  let tables := (Array.replicate p.names.size Table.empty).setIfInBounds atENVIRON
    (tableFrom (environment.map fun (name, value) => (.text name, value)))
  let tables := tables.setIfInBounds atARGV
    (tableFrom (arguments.zipIdx.map fun (s, n) => (.number n, s)))
  { shell, tables
    shared  := (firstCells p.names).setIfInBounds atARGC (.value (.number arguments.length.toFloat))
    own     := #[]
    whole   := .input "", stale := false, fields := #[], isCut := false
    main    := none, index := 0, ended := false
    inputs  := [], outputs := [], printed := [], size := 0
    known   := ∅
    ranges  := Array.replicate (p.rules.length + 1) false
    status  := 0, seed := .number 0.0, random := randomOf 0 }

end BoardConsole.Shell.Scan

namespace BoardConsole.Shell.Utility

open Act

/-- What the arguments of `awk` ask for. -/
structure ScanOrder where
  assignments : List String
  separator   : Option String
  files       : List String
  rest        : List String

/-- Reads the options of `awk`. -/
def readScanOrder : (fuel : Nat) → ScanOrder → Except String ScanOrder
  | 0, o => .ok o
  | fuel + 1, o =>
    match o.rest with
    | [] => .ok o
    | a :: rest =>
      match a.toList with
      | ['-', '-'] => .ok { o with rest }
      | '-' :: letter :: more =>
        let take (use : String → ScanOrder → ScanOrder) : Except String ScanOrder :=
          match more, rest with
          | [], []        => .error ("option -" ++ String.ofList [letter] ++ " lacks argument")
          | [], s :: rest => readScanOrder fuel (use s { o with rest })
          | more, rest    => readScanOrder fuel (use (String.ofList more) { o with rest })
        if letter = 'F' then take fun s o => { o with separator := some s }
        else if letter = 'f' then take fun s o => { o with files := o.files ++ [s] }
        else if letter = 'v' then take fun s o => { o with assignments := o.assignments ++ [s] }
        else if letter = 'W' then take fun _ o => o
        else .error ("not an option: " ++ a)
      | _ => .ok o

/-- The text of a program, from files or the first argument. -/
def scanText (name : String) (o : ScanOrder) : Act (Except String (String × List String)) := do
  if o.files.isEmpty then
    match o.rest with
    | []           => return .error ("Usage: " ++ name ++ " [Options] [Program] [file ...]")
    | text :: rest => return .ok (text, rest)
  else
    let mut texts := []
    for file in o.files do
      match ← readInput file with
      | .ok text      => texts := text :: texts
      | .error reason => return .error (name ++ ": cannot open " ++ file ++ " (" ++ reason ++ ")")
    return .ok ("\n".intercalate texts.reverse, o.rest)

/-- Where a fault of a program is. -/
def scanPlace (o : ScanOrder) (fault : Scan.ReadFault) : String :=
  if fault.message.startsWith "unexpected character" then toString fault.line ++ ": "
  else
    match o.files.getLast? with
    | some file => file ++ ": line " ++ toString fault.line ++ ": "
    | none      => "line " ++ toString fault.line ++ ": "

/-- Runs a program that was read, and answers the status. -/
def scanWith (r : Runner) (name : String) (p : Scan.Program) (o : ScanOrder)
    (assignments : List (String × String)) (arguments : List String) : Act Nat := do
  let known ← environment
  let c : Scan.Setting := ⟨p, r⟩
  let prepare : Scan.Run Unit := do
    for (variable_, value) in assignments do
      Scan.assignNamed p.names variable_ value
    match o.separator with
    | some s => Scan.setVariable (.shared Scan.atFS) (.input (Scan.escaped s))
    | none   => pure ()
  let report (message : String) : Scan.Run Unit := do
    Scan.act (complain (name ++ ": " ++ message))
    modify ({ · with status := 2 })
  let run : Scan.Run Unit := do
    let guarded (act : Scan.Run Unit) : Scan.Run Unit := do
      try act
      catch
        | .refused message => report message
        | .fault message =>
          let file ← Scan.textAt Scan.atFILENAME
          report ("run time error: " ++ message ++ "\n\tFILENAME=\"" ++ file ++ "\" FNR=" ++
            (← Scan.textAt Scan.atFNR) ++ " NR=" ++ (← Scan.textAt Scan.atNR))
        | other => throw other
    guarded do
      prepare
      Scan.runProgram c
    guarded (Scan.finish r)
  let m := Scan.Machine.first (← get) p known (name :: arguments)
  match run m with
  | .ok _ m =>
    set m.shell
    return m.status
  | .error (.stop stop) m =>
    set m.shell
    throw stop
  | .error _ m =>
    set m.shell
    return m.status

/-- Runs a program on the records of inputs. -/
def awkAs (name : String) : Builtin := fun r args => do
  let refuse (message : String) : Act Nat := do
    complain (name ++ ": " ++ message)
    return 2
  if args.head? = some "--version" then
    Act.print (name ++ "\n")
    return 0
  match readScanOrder (args.length + 1) ⟨[], none, [], args⟩ with
  | .error message => refuse message
  | .ok o =>
    match o.assignments.find? fun s => (Scan.assignmentOf? s).isNone with
    | some s => refuse ("improper assignment: -v " ++ s)
    | none =>
      match ← scanText name o with
      | .error message =>
        complain message
        return if o.files.isEmpty then 0 else 2
      | .ok (text, arguments) =>
        match Scan.Program.ofText text with
        | .error fault => refuse (scanPlace o fault ++ fault.message)
        | .ok p =>
          scanWith r name p o (o.assignments.filterMap Scan.assignmentOf?) arguments

end BoardConsole.Shell.Utility
