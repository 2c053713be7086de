import BoardConsole.Shell.Utility.Scan.Machine

/-!
# Shell — Running scanning programs

What expressions are worth and what statements do. A number bounds how deep that may go; it is so great
that no program comes to its end.
-/

namespace BoardConsole.Shell.Scan

/-! ### Numbers -/

/-- The remainder of a division towards zero. -/
def remainderOf (x y : Float) : Float :=
  if x.isNaN || y.isNaN || x.isInf || y == 0.0 then 0.0 / 0.0
  else if y.isInf then x
  else
    let signed (r : Float) : Float := if x < 0.0 then -r else r
    match whole? x, whole? y with
    | some m, some n => signed (Float.ofNat (m.natAbs % n.natAbs))
    | _, _ =>
      let a := Decimal.Ratio.ofFloat x
      let b := Decimal.Ratio.ofFloat y
      let rest := (a.above * b.below) % (b.above * a.below)
      signed ((Float.ofNat rest).scaleB (-(Nat.log2 (a.below * b.below) : Int)))

/-- What an operation makes of two numbers. -/
def Operator.apply (o : Operator) (x y : Float) : Float :=
  match o with
  | add       => x + y
  | subtract  => x - y
  | multiply  => x * y
  | divide    => x / y
  | remainder => remainderOf x y
  | power     => Float.pow x y

/-- A number without its fraction. -/
def wholePart (x : Float) : Float := if x < 0.0 then x.ceil else x.floor

/-- The value that says whether something holds. -/
def truth (b : Bool) : Value := .number (if b then 1.0 else 0.0)

/-! ### Texts -/

/-- The place where a text occurs in another one, counted from one; zero where it does not. -/
def indexOf (needle : List Char) : (hay : List Char) → (place : Nat) → Nat
  | [], place     => if needle.isEmpty then place else 0
  | c :: r, place => if needle.isPrefixOf (c :: r) then place else indexOf needle r (place + 1)

/-- The part of a text from a place on. -/
def partOf (s : String) (first : Float) (length : Option Float) : String :=
  let cs := s.toList
  let start := wholePart first
  let stop := match length with
    | none   => cs.length.toFloat + 1.0
    | some n => start + wholePart n
  let start := if start < 1.0 then 1.0 else start
  let stop := if cs.length.toFloat + 1.0 < stop then cs.length.toFloat + 1.0 else stop
  if start < stop then
    String.ofList ((cs.drop (start.toUInt64.toNat - 1)).take (stop - start).toUInt64.toNat)
  else ""

/-- What a match is replaced with. A backslash keeps the match out, and another one itself. -/
def replacement (found : List Char) : (fuel : Nat) → List Char → List Char
  | 0, _ | _, [] => []
  | fuel + 1, '\\' :: cs =>
    let more := cs.takeWhile (· = '\\')
    let rest := cs.drop more.length
    let count := more.length + 1
    match rest with
    | '&' :: after =>
      List.replicate (count / 2) '\\' ++ (if count % 2 = 1 then ['&'] else found) ++
        replacement found fuel after
    | rest => List.replicate count '\\' ++ replacement found fuel rest
  | fuel + 1, '&' :: cs => found ++ replacement found fuel cs
  | fuel + 1, c :: cs   => c :: replacement found fuel cs

/-- A text with matches replaced, and how many there were. An empty match is not replaced right behind
another match. -/
def replaceAll (r : Regex) (by_ : List Char) : (fuel : Nat) → (behind : Bool) →
    (passed rest : List Char) → List Char × Nat
  | 0, _, _, rest => (rest, 0)
  | fuel + 1, behind, passed, rest =>
    match Regex.findBehind false r passed rest with
    | none => (rest, 0)
    | some m =>
      let made := replacement m.text (by_.length + 1) by_
      if m.text.isEmpty then
        let counts := !(behind && m.before.isEmpty)
        let (next, after) := match m.after with
          | c :: cs => ([c], some cs)
          | []      => ([], none)
        let front := m.before ++ (if counts then made else []) ++ next
        match after with
        | none => (front, if counts then 1 else 0)
        | some cs =>
          let (more, n) := replaceAll r by_ fuel false (next ++ m.before.reverse ++ passed) cs
          (front ++ more, n + if counts then 1 else 0)
      else
        let (more, n) :=
          replaceAll r by_ fuel true (m.text.reverse ++ m.before.reverse ++ passed) m.after
        (m.before ++ made ++ more, n + 1)

/-- A text with the first match replaced, and how many there were. -/
def replaceFirst (r : Regex) (by_ text : List Char) : List Char × Nat :=
  match Regex.find false r text with
  | none   => (text, 0)
  | some m => (m.before ++ replacement m.text (by_.length + 1) by_ ++ m.after, 1)

/-- Whether a regular expression fits somewhere in a text. -/
def fitsIn (r : Regex) (text : String) : Bool := (Regex.find false r text.toList).isSome

/-! ### Formats -/

/-- The text that a format makes of values. -/
def formatText (name : String) (prints : Bool) (format : String) (values : List Value) :
    Run String := do
  let (text, fault) := filled (← numberFormat) format values
  match fault with
  | none => return text
  | some fault =>
    if prints then put text
    let place := name ++ "(\"" ++ format ++ "\")"
    throw (.fault (match fault with
      | .lacksValue => "not enough arguments passed to " ++ place
      | .improper n => "improper conversion(number " ++ toString n ++ ") in " ++ place))

/-! ### Known functions -/

/-- Closes what has a name, and answers the status. -/
def closeNamed (r : Runner) (name : String) : Run Float := do
  let m ← get
  let outputs := m.outputs.filter (·.name = name)
  let inputs := m.inputs.filter (·.name = name)
  modify fun m =>
    { m with
      outputs := m.outputs.filter (·.name != name)
      inputs  := m.inputs.filter (·.name != name) }
  let mut status : Option Nat := none
  for o in outputs do
    if o.command then flushPrinted
    status := some (← endOutput r o)
  for i in inputs do
    let _ ← takeStandard false i
    status := some i.status
  return match status with
    | some n => n.toFloat
    | none   => -1.0

/-- Runs a command, and answers its status. -/
def runCommand (r : Runner) (command : String) : Run Float := do
  flushAll
  settleInputs
  match ← act (Act.launch r ["sh", "-c", command]) with
  | .ok n        => return (endingOf n).toFloat
  | .error fault => return fault.status.toFloat

/-- Writes what was printed to something. -/
def flushNamed : List Value → Run Float
  | [] => do
    flushPrinted
    return 0.0
  | v :: _ => do
    let name ← textOf v
    if name = "" then
      flushAll
      return 0.0
    else if name = "/dev/stdout" || name = "-" then
      flushPrinted
      return 0.0
    else
      let outputs := (← get).outputs
      if outputs.any (·.name = name) then
        let outputs ← outputs.mapM fun o => if o.name = name then writeOut o else pure o
        modify ({ · with outputs })
        return 0.0
      else return -1.0

/-- The moment that six numbers mean, in seconds from the beginning of 1970. -/
def momentOf (s : String) : Run Float := do
  let words := (wordsOf s.length s.toList).map String.ofList
  match words.mapM String.toInt? with
  | some (year :: month :: day :: hour :: minute :: second :: _) =>
    let months := year * 12 + month - 1
    let first : CivilDay := ⟨months.fdiv 12, (months.fmod 12 + 1).toNat, 1⟩
    let seconds := (first.toDays + day - 1) * secondsInDay + hour * 3600 + minute * 60 + second
    return Float.ofInt seconds
  | _ => return -1.0

/-- The text of a moment in a format. -/
def momentText (vs : List Value) : Run String := do
  let format ← match vs.head? with
    | some v => textOf v
    | none   => pure "%c"
  let now ← act Utility.presentNanos
  let nanos := match vs.drop 1 |>.head? with
    | some v => truncated v.toNumber * nanosInSecond
    | none   => now
  let universal := (vs.drop 2).head?.any Value.holds
  let zone ← if universal then pure Zone.universal else act Utility.currentZone
  return (Moment.ofNanos zone nanos).format format

/-- What a known function is worth for values. -/
def Known.apply (r : Runner) (f : Known) (vs : List Value) : Run Value := do
  let v := vs.headD .unset
  let w := (vs.drop 1).headD .unset
  let x := v.toNumber
  match f with
  | length => return .number (← textOf v).length.toFloat
  | index =>
    let hay ← textOf v
    let needle ← textOf w
    return .number (indexOf needle.toList hay.toList 1).toFloat
  | substr =>
    let length := ((vs.drop 2).head?).map Value.toNumber
    return .text (partOf (← textOf v) w.toNumber length)
  | sprintf => return .text (← formatText "sprintf" false (← textOf v) (vs.drop 1))
  | sin     => return .number x.sin
  | cos     => return .number x.cos
  | atan2   => return .number (Float.atan2 x w.toNumber)
  | exp     => return .number x.exp
  | log     => return .number x.log
  | sqrt    => return .number x.sqrt
  | int     => return .number (wholePart x)
  | rand    => return .number (← random)
  | srand =>
    let before := (← get).seed
    let seed : Value := if vs.isEmpty then .number (Float.ofInt (Act.firstMoment / nanosInSecond)) else v
    let start := (truncated seed.toNumber % Nat.pow 2 32).toNat.toUInt32
    modify ({ · with seed, random := randomOf start })
    return before
  | close   => return .number (← closeNamed r (← textOf v))
  | system  => return .number (← runCommand r (← textOf v))
  | toupper => return .text (← textOf v).toUpper
  | tolower => return .text (← textOf v).toLower
  | fflush  => return .number (← flushNamed vs)
  | find    => return .unset
  | systime => return .number (Float.ofInt ((← act Utility.presentNanos) / nanosInSecond))
  | mktime  => return .number (← momentOf (← textOf v))
  | strftime => return .text (← momentText vs)

/-! ### Expressions -/

/-- A place whose parts have been worked out. -/
inductive Target where
  | slot (s : Slot)
  | field (n : Nat)
  | element (table : Nat) (key : Key)

/-- What is there. -/
def getTarget : Target → Run Value
  | .slot s        => valueOf s
  | .field n       => Scan.field n
  | .element n key => Scan.element n key

/-- Assigns it. -/
def setTarget (t : Target) (v : Value) : Run Unit :=
  match t with
  | .slot s        => setVariable s v
  | .field n       => setField n v
  | .element n key => setElement n key v

/-- What a program is run with. -/
structure Setting where
  program : Program
  runner  : Runner

/-- The next record of an input among those that are open; what opens it is run where it is not. -/
def nextOfOpened (name : String) (command : Bool) (opening : Run (Option Input)) :
    Run (Option (Option String)) := do
  let isIt (i : Input) : Bool := i.name = name && i.command = command
  let input? ← match (← get).inputs.find? isIt with
    | some i => pure (some i)
    | none   => opening
  match input? with
  | none => return none
  | some i =>
    let separator ← recordSeparator
    let (text, i) ← match i.take? separator with
      | some (text, i) => pure (some text, i)
      | none           => pure (none, ← takeStandard true { i with rest := [] })
    modify fun m => { m with inputs := i :: m.inputs.filter fun i => !isIt i }
    return some text

/-- Reads from a file; nothing where it cannot be read. -/
def nextOfFile (name : String) : Run (Option (Option String)) :=
  nextOfOpened name false do
    settleInputs
    match ← openInput name with
    | .ok i => return some i
    | .error reason =>
      if reason = PathFault.isADirectory.reason then
        throw (.refused ("read error (" ++ reason ++ ")"))
      else return none

/-- Reads from a command. -/
def nextOfCommand (r : Runner) (command : String) : Run (Option (Option String)) :=
  nextOfOpened command true do
    settleInputs
    return some (← openCommand r command)

mutual

/-- What an expression is worth. -/
def eval (c : Setting) : (fuel : Nat) → Expr → Run Value
  | 0, _ => return .unset
  | fuel + 1, e => do
    match e with
    | .number x => return .number x
    | .text s   => return .text s
    | .fits r   => return truth (fitsIn r (← textOf (← record)))
    | .value p  => getPlace c fuel p
    | .assign (.slot s) e =>
      let v ← eval c fuel e
      setVariable s v
      return v
    | .assign p e =>
      let t ← target c fuel p
      let v ← eval c fuel e
      setTarget t v
      return v
    | .change p o e =>
      let t ← target c fuel p
      let y := (← eval c fuel e).toNumber
      let v := Value.number (o.apply (← getTarget t).toNumber y)
      setTarget t v
      return v
    | .step p by_ after =>
      let t ← target c fuel p
      let x := (← getTarget t).toNumber
      setTarget t (.number (x + by_))
      return .number (if after then x + by_ else x)
    | .choose a b d =>
      if (← eval c fuel a).holds then eval c fuel b else eval c fuel d
    | .either a b =>
      if (← eval c fuel a).holds then return truth true
      else return truth (← eval c fuel b).holds
    | .both a b =>
      if (← eval c fuel a).holds then return truth (← eval c fuel b).holds
      else return truth false
    | .not e    => return truth !(← eval c fuel e).holds
    | .negate e => return .number (-(← eval c fuel e).toNumber)
    | .plus e   => return .number (← eval c fuel e).toNumber
    | .calculate o a b =>
      let x := (← eval c fuel a).toNumber
      let y := (← eval c fuel b).toNumber
      return .number (o.apply x y)
    | .relate r a b =>
      let x ← eval c fuel a
      let y ← eval c fuel b
      return truth (r.holds (x.compare (← numberFormat) y))
    | .compare negated a b =>
      let text ← textOf (← eval c fuel a)
      let r ← pattern c fuel b
      return truth (fitsIn r text != negated)
    | .has s keys =>
      let key ← keyOfAll (← evalAll c fuel keys)
      let n ← tableOf s
      modifyTable n (·.touch false key)
      return truth (((← get).tables.getD n .empty).value? key).isSome
    | .join a b =>
      let s ← textOf (← eval c fuel a)
      let t ← textOf (← eval c fuel b)
      return .text (s ++ t)
    | .call n arguments => call c fuel n arguments
    | .known .length [] => return .number (← textOf (← record)).length.toFloat
    | .known .length [.value (.slot s)] =>
      match ← cellOf s with
      | .table n => return .number ((← get).tables.getD n .empty).size.toFloat
      | .value _ => return .number (← textOf (← valueOf s)).length.toFloat
    | .known .find [a, b] =>
      let text ← textOf (← eval c fuel a)
      let r ← pattern c fuel b
      let (start, length) := match Regex.find false r text.toList with
        | some m => (m.before.length.toFloat + 1.0, m.text.length.toFloat)
        | none   => (0.0, -1.0)
      putNumber atRSTART start
      putNumber atRLENGTH length
      return .number start
    | .known f arguments => f.apply c.runner (← evalAll c fuel arguments)
    | .split e s separator =>
      let text ← textOf (← eval c fuel e)
      let separator ← match separator with
        | none          => separatorFor (← textAt atFS)
        | some (.fits r) => pure (.regex r)
        | some e        => separatorFor (← textOf (← eval c fuel e))
      let parts := separator.cut text
      let n ← tableOf s
      modifyTable n fun _ => .ofList (parts.map .input)
      return .number parts.length.toFloat
    | .substitute all a e p =>
      let r ← pattern c fuel a
      let made ← textOf (← eval c fuel e)
      let t ← target c fuel (p.getD (.field (.number 0.0)))
      let text ← textOf (← getTarget t)
      let (changed, n) := if all then replaceAll r made.toList (text.length + 2) false [] text.toList
        else replaceFirst r made.toList text.toList
      if 0 < n then setTarget t (.text (String.ofList changed))
      return .number n.toFloat
    | .read source p => do
      let found : Option (Option String) ← match source with
        | .input     => do pure (some (← nextRecord c.program.names))
        | .file e    => do nextOfFile (← textOf (← eval c fuel e))
        | .command e => do nextOfCommand c.runner (← textOf (← eval c fuel e))
      match found with
      | none      => return .number (-1.0)
      | some none => return .number 0.0
      | some (some text) =>
        match p with
        | none   => setRecord (.input text)
        | some p =>
          let t ← target c fuel p
          setTarget t (.input text)
        return .number 1.0

/-- What expressions are worth. -/
def evalAll (c : Setting) : (fuel : Nat) → List Expr → Run (List Value)
  | 0, _ | _, [] => return []
  | fuel + 1, [e] => return [← eval c fuel e]
  | fuel + 1, e :: es => do
    let v ← eval c fuel e
    return v :: (← evalAll c fuel es)

/-- What a place holds. -/
def getPlace (c : Setting) : (fuel : Nat) → Place → Run Value
  | 0, _ => return .unset
  | fuel + 1, p => do
    match p with
    | .slot s  => valueOf s
    | .field e => field (← fieldNumber (← eval c fuel e))
    | .element s keys =>
      let key ← keyOfAll (← evalAll c fuel keys)
      element (← tableOf s) key

/-- The place that is meant, once its parts have been worked out. -/
def target (c : Setting) : (fuel : Nat) → Place → Run Target
  | 0, _ => return .field 0
  | fuel + 1, p => do
    match p with
    | .slot s  => return .slot s
    | .field e => return .field (← fieldNumber (← eval c fuel e))
    | .element s keys =>
      let key ← keyOfAll (← evalAll c fuel keys)
      return .element (← tableOf s) key

/-- The regular expression that an expression stands for. -/
def pattern (c : Setting) : (fuel : Nat) → Expr → Run Regex
  | 0, _ => return .nothing
  | fuel + 1, e => do
    match e with
    | .fits r => return r
    | e       => regexOf (← textOf (← eval c fuel e))

/-- What a parameter begins with: the table that is handed over, or a value. -/
def argument (c : Setting) : (fuel : Nat) → (isTable : Bool) → Expr → Run Cell
  | 0, _, _ => return default
  | fuel + 1, isTable, e => do
    match e with
    | .value (.slot s) =>
      if isTable then return .table (← tableOf s)
      else
        match ← cellOf s with
        | .table n => return .table n
        | .value _ => return .value (← valueOf s)
    | e => return .value (← eval c fuel e)

/-- What parameters begin with. -/
def argumentsFrom (c : Setting) (tables : List Nat) : (fuel : Nat) → (n : Nat) → List Expr →
    Run (List Cell)
  | 0, _, _ | _, _, [] => return []
  | fuel + 1, n, e :: es => do
    let a ← argument c fuel (tables.contains n) e
    return a :: (← argumentsFrom c tables fuel (n + 1) es)

/-- What a call of a function is worth. -/
def call (c : Setting) : (fuel : Nat) → (n : Nat) → List Expr → Run Value
  | 0, _, _ => return .unset
  | fuel + 1, n, es => do
    let f := c.program.routines.getD n default
    let given ← argumentsFrom c f.tables fuel 0 es
    let own := (given ++ List.replicate (f.parameters - given.length) default).toArray
    let outer := (← get).own
    let count := (← get).tables.size
    modify ({ · with own })
    let result : Value ← try
        execAll c fuel f.body
        pure .unset
      catch
        | .given v => pure v
        | other    => throw other
    modify fun m => { m with own := outer, tables := m.tables.shrink count }
    return result

/-- Does what a statement says. -/
def exec (c : Setting) : (fuel : Nat) → Statement → Run Unit
  | 0, _ => return
  | fuel + 1, s => do
    match s with
    | .act e =>
      let _ ← eval c fuel e
    | .print items target =>
      let text ← match items with
        | [] => textOf (← record)
        | items =>
          let vs ← evalAll c fuel items
          let format ← textAt atOFMT
          let parts := vs.map (·.toText format)
          match parts with
          | [s] => pure s
          | parts => do pure ((← textAt atOFS).intercalate parts)
      let text := text ++ (← textAt atORS)
      match target with
      | none             => put text
      | some (outlet, e) => putTo outlet (← textOf (← eval c fuel e)) text
    | .format items target =>
      let vs ← evalAll c fuel items
      let format ← textOf (vs.headD .unset)
      let name? ← match target with
        | none             => pure none
        | some (outlet, e) => do pure (some (outlet, ← textOf (← eval c fuel e)))
      let text ← formatText "printf" name?.isNone format (vs.drop 1)
      match name? with
      | none                => put text
      | some (outlet, name) => putTo outlet name text
    | .choose e yes no =>
      if (← eval c fuel e).holds then exec c fuel yes
      else
        match no with
        | some no => exec c fuel no
        | none    => return
    | .whilst e body      => whilst c fuel e none body
    | .once body e =>
      if ← turn c fuel body then whilst c fuel e none body
    | .turns first e step body =>
      match first with
      | some e =>
        let _ ← eval c fuel e
      | none => pure ()
      whilst c fuel (e.getD (.number 1.0)) step body
    | .each v t body =>
      let n ← tableOf t
      let (keys, listed) := ((← get).tables.getD n .empty).keys
      modifyTable n fun _ => listed
      eachKey c fuel v keys body
    | .block body => execAll c fuel body
    | .next       => throw .next
    | .nextFile   => throw .nextFile
    | .exit e =>
      match e with
      | some e =>
        let n := truncated (← eval c fuel e).toNumber
        modify ({ · with status := (n % 256).toNat })
      | none => pure ()
      throw .exit
    | .give e =>
      match e with
      | some e => throw (.given (← eval c fuel e))
      | none   => throw (.given .unset)
    | .leave      => throw .broken
    | .again      => throw .continued
    | .delete s keys =>
      let key ← keyOfAll (← evalAll c fuel keys)
      modifyTable (← tableOf s) (·.erase key)
    | .clear s => modifyTable (← tableOf s) fun _ => .empty

/-- Does what statements say. -/
def execAll (c : Setting) : (fuel : Nat) → List Statement → Run Unit
  | 0, _ | _, [] => return
  | fuel + 1, s :: ss => do
    exec c fuel s
    execAll c fuel ss

/-- Does once what is in a loop. Answers whether the loop goes on. -/
def turn (c : Setting) : (fuel : Nat) → Statement → Run Bool
  | 0, _ => return false
  | fuel + 1, body => do
    try
      exec c fuel body
      return true
    catch
      | .broken    => return false
      | .continued => return true
      | other      => throw other

/-- Does what is in a loop as long as a condition holds. -/
def whilst (c : Setting) : (fuel : Nat) → Expr → (step : Option Expr) → Statement → Run Unit
  | 0, _, _, _ => return
  | fuel + 1, e, step, body => do
    if (← eval c fuel e).holds then
      if ← turn c fuel body then
        match step with
        | some e =>
          let _ ← eval c fuel e
        | none => pure ()
        whilst c fuel e step body

/-- Does what is in a loop for keys. -/
def eachKey (c : Setting) : (fuel : Nat) → Slot → List String → Statement → Run Unit
  | 0, _, _, _ | _, _, [], _ => return
  | fuel + 1, v, key :: keys, body => do
    setVariable v (.text key)
    if ← turn c fuel body then eachKey c fuel v keys body

end

end BoardConsole.Shell.Scan
