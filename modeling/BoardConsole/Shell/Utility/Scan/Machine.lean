import BoardConsole.Shell.Runner
import BoardConsole.Shell.Utility.Date
import BoardConsole.Shell.Utility.Scan.Read
import BoardConsole.Shell.Utility.Scan.Record
import BoardConsole.Shell.Utility.Scan.Table

/-!
# Shell — The state of a scanning program

What a program has while it runs: variables and tables, the record with its fields, and the inputs and
outputs that it has opened. The record is cut into fields only when one of them is asked for, and put
together again only when it is asked for as a whole. What is printed is kept for a while before it is
written.
-/

namespace BoardConsole.Shell.Scan

/-! ### State -/

/-- What a variable holds: a value, or the number of a table. -/
inductive Cell where
  | value (v : Value)
  | table (n : Nat)

instance : Inhabited Cell := ⟨.value .unset⟩

/-- An input. -/
structure Input where
  name     : String
  /-- Whether it is what a command printed. -/
  command  : Bool
  rest     : List Char
  /-- How long the text was. -/
  length   : Nat
  /-- Whether it is the standard input, of which no more is taken than was read. -/
  standard : Bool
  /-- The status that the command ended with. -/
  status   : Nat

/-- An output, with what has not been written, last first. -/
structure Output where
  name    : String
  command : Bool
  parts   : List String
  size    : Nat

/-- The state of a program that runs. -/
structure Machine where
  shell   : State
  shared  : Array Cell
  /-- The parameters of the function that is run. -/
  own     : Array Cell
  tables  : Array Table
  /-- The record as a whole, and whether fields have been changed since. -/
  whole   : Value
  stale   : Bool
  fields  : Array Value
  /-- Whether the record has been cut into fields. -/
  isCut   : Bool
  main    : Option Input
  /-- The number of the argument that is read next. -/
  index   : Nat
  /-- Whether there is nothing more to read. -/
  ended   : Bool
  inputs  : List Input
  outputs : List Output
  /-- What has been printed and not been written, last first. -/
  printed : List String
  size    : Nat
  known   : Std.HashMap String Regex
  /-- The ranges of records that are open. -/
  ranges  : Array Bool
  status  : Nat
  seed    : Value
  /-- The numbers from which the next random one is made. -/
  random  : Array UInt32

/-- Why a statement is left. -/
inductive Leave where
  | stop (s : Stop)
  | next
  | nextFile
  | exit
  | broken
  | continued
  | given (v : Value)
  /-- A fault of what is done. -/
  | fault (message : String)
  /-- Something that cannot be used. -/
  | refused (message : String)

/-- What runs in a state. -/
abbrev Run := EStateM Leave Machine

/-- Acts in the world. -/
def act {α : Type} (a : Act α) : Run α := fun m =>
  match a m.shell with
  | .ok x s       => .ok x { m with shell := s }
  | .error stop s => .error (.stop stop) { m with shell := s }

/-! ### Standing variables -/

def atNF : Nat := standing "NF"
def atNR : Nat := standing "NR"
def atFNR : Nat := standing "FNR"
def atFS : Nat := standing "FS"
def atOFS : Nat := standing "OFS"
def atORS : Nat := standing "ORS"
def atRS : Nat := standing "RS"
def atSUBSEP : Nat := standing "SUBSEP"
def atCONVFMT : Nat := standing "CONVFMT"
def atOFMT : Nat := standing "OFMT"
def atRSTART : Nat := standing "RSTART"
def atRLENGTH : Nat := standing "RLENGTH"
def atFILENAME : Nat := standing "FILENAME"
def atENVIRON : Nat := standing "ENVIRON"
def atARGC : Nat := standing "ARGC"
def atARGV : Nat := standing "ARGV"

/-- The value of a shared variable as it stands. -/
def Machine.standing (m : Machine) (n : Nat) : Value :=
  match m.shared.getD n default with
  | .value v => v
  | .table _ => .unset

/-- The text of a standing variable. -/
def textAt (n : Nat) : Run String := do
  let m ← get
  match m.standing n with
  | .text s | .input s => return s
  | v => return v.toText standingFormat

/-- The format for numbers that become texts. -/
def numberFormat : Run String := textAt atCONVFMT

/-- The text of a value. -/
def textOf (v : Value) : Run String := do
  match v with
  | .text s | .input s => return s
  | .unset             => return ""
  | .number x          =>
    match whole? x with
    | some n => return toString n
    | none   => return fractionText (← numberFormat) x

def putShared (n : Nat) (c : Cell) : Run Unit :=
  modify fun m => { m with shared := m.shared.setIfInBounds n c }

def putNumber (n : Nat) (x : Float) : Run Unit := putShared n (.value (.number x))

/-! ### Regular expressions -/

/-- The regular expression that a text spells. -/
def regexOf (s : String) : Run Regex := do
  match (← get).known[s]? with
  | some r => return r
  | none =>
    match Pattern.ofText s with
    | .ok r =>
      modify fun m => { m with known := m.known.insert s r }
      return r
    | .error fault =>
      throw (.fault ("regular expression compile failed (" ++ fault.message ++ ")\n" ++ s))

/-- The separator that a text stands for. -/
def separatorFor (s : String) : Run Separator := do
  match separatorOf? s with
  | some separator => return separator
  | none           => return .regex (← regexOf s)

/-! ### Fields -/

/-- Cuts the record into fields. -/
def cutRecord : Run Unit := do
  if (← get).isCut then return
  let separator ← separatorFor (← textAt atFS)
  let text ← textOf (← get).whole
  let fields := ((separator.cut text).map Value.input).toArray
  modify fun m =>
    { m with
      fields, isCut := true
      shared := m.shared.setIfInBounds atNF (.value (.number fields.size.toFloat)) }

/-- The record as a whole. -/
def record : Run Value := do
  let m ← get
  if !m.stale then return m.whole
  let separator ← textAt atOFS
  let parts ← m.fields.toList.mapM textOf
  let whole := Value.input (separator.intercalate parts)
  modify ({ · with whole, stale := false })
  return whole

/-- Puts a new record in the place of the old one. -/
def setRecord (v : Value) : Run Unit :=
  modify ({ · with whole := v, stale := false, fields := #[], isCut := false })

/-- The number of a field. -/
def fieldNumber (v : Value) : Run Nat := do
  let n := truncated v.toNumber
  if n < 0 then throw (.fault ("negative field index $" ++ toString n))
  else return n.toNat

/-- The value of a field. -/
def field (n : Nat) : Run Value := do
  if n = 0 then record
  else
    cutRecord
    return (← get).fields.getD (n - 1) (.text "")

/-- Some values, filled up with empty ones or cut to a number. -/
def resized (fields : Array Value) (n : Nat) : Array Value :=
  if n ≤ fields.size then fields.extract 0 n
  else fields ++ Array.replicate (n - fields.size) (Value.input "")

/-- Sets the number of fields. -/
def setFieldCount (n : Nat) : Run Unit := do
  cutRecord
  modify fun m =>
    { m with
      fields := resized m.fields n, stale := true
      shared := m.shared.setIfInBounds atNF (.value (.number n.toFloat)) }

/-- Assigns a field. -/
def setField (n : Nat) (v : Value) : Run Unit := do
  if n = 0 then
    setRecord (.input (← textOf v))
  else
    cutRecord
    if (← get).fields.size < n then setFieldCount n
    modify fun m => { m with fields := m.fields.setIfInBounds (n - 1) v, stale := true }

/-! ### Variables -/

/-- What a variable holds. -/
def cellOf (s : Slot) : Run Cell := do
  match s with
  | .shared n => return (← get).shared.getD n default
  | .own n    => return (← get).own.getD n default

def putCell (s : Slot) (c : Cell) : Run Unit :=
  match s with
  | .shared n => putShared n c
  | .own n    => modify fun m => { m with own := m.own.setIfInBounds n c }

/-- The value of a variable. -/
def valueOf (s : Slot) : Run Value := do
  if s = .shared atNF then cutRecord
  match ← cellOf s with
  | .value v => return v
  | .table _ => return .unset

/-- Assigns a variable. -/
def setVariable (s : Slot) (v : Value) : Run Unit := do
  match s with
  | .shared n =>
    if n = atNF then
      let count := truncated v.toNumber
      if count < 0 then throw (.fault "negative value assigned to NF")
      setFieldCount count.toNat
    else
      if n = atFS then cutRecord
      if n = atOFS then
        let _ ← record
      putShared n (.value v)
  | s => putCell s (.value v)

/-- The number of the table that a variable stands for, which is made if there is none yet. -/
def tableOf (s : Slot) : Run Nat := do
  match ← cellOf s with
  | .table n => return n
  | .value _ =>
    match s with
    | .shared n =>
      putCell s (.table n)
      return n
    | .own _ =>
      let n := (← get).tables.size
      modify fun m => { m with tables := m.tables.push .empty }
      putCell s (.table n)
      return n

def modifyTable (n : Nat) (f : Table → Table) : Run Unit :=
  modify fun m => { m with tables := m.tables.modify n f }

/-- The key that a value is. -/
def keyOf (v : Value) : Run Key := do
  match v with
  | .number x =>
    match whole? x with
    | some n => return .number n
    | none   => return .text (fractionText (← numberFormat) x)
  | v => return .text (← textOf v)

/-- The key that several values are together. -/
def keyOfAll (vs : List Value) : Run Key := do
  match vs with
  | [v] => keyOf v
  | vs =>
    let separator ← textAt atSUBSEP
    let parts ← vs.mapM textOf
    return .text (separator.intercalate parts)

/-- The value in a table, which is made if there is none yet. -/
def element (n : Nat) (key : Key) : Run Value := do
  modifyTable n (·.touch true key)
  return (((← get).tables.getD n .empty).value? key).getD .unset

/-- Puts a value into a table. -/
def setElement (n : Nat) (key : Key) (v : Value) : Run Unit :=
  modifyTable n fun t => (t.touch true key).put key v

/-! ### Outputs -/

/-- What is written at a time. -/
def outputBlock : Nat := 4096

/-- Writes what was printed. -/
def flushPrinted : Run Unit := do
  let parts := (← get).printed
  if parts.isEmpty then return
  modify ({ · with printed := [], size := 0 })
  match ← act (Act.write 1 (String.join parts.reverse)) with
  | none => return
  | some fault =>
    modify ({ · with status := 2 })
    throw (.refused ("write failure (" ++ fault.reason ++ ")"))

/-- Prints to the standard output. -/
def put (text : String) : Run Unit := do
  modify fun m => { m with printed := text :: m.printed, size := m.size + text.utf8ByteSize }
  if outputBlock ≤ (← get).size then flushPrinted

/-- Puts what was printed to a file into it. -/
def writeOut (o : Output) : Run Output := do
  if o.command || o.parts.isEmpty then return o
  let _ ← act (Act.writeFile o.name (String.join o.parts.reverse) true)
  return { o with parts := [], size := 0 }

/-- Puts all that was printed where it belongs, as far as that is known to commands. -/
def flushAll : Run Unit := do
  flushPrinted
  let outputs ← (← get).outputs.mapM writeOut
  modify ({ · with outputs })

/-- Takes from the standard input what was read of it, its end having been reached or not. -/
def takeStandard (ended : Bool) (i : Input) : Run Input := do
  if !i.standard then return i
  let read := i.length - i.rest.length
  let blocks := (read + outputBlock - 1) / outputBlock * outputBlock
  let taken := min blocks i.length
  act (Act.takePart 0 taken (ended || i.length < blocks))
  return { i with length := i.length - taken }

/-- How a command that ended with a status is answered for. -/
def endingOf (status : Nat) : Nat := if 128 < status then status - 128 + 256 else status

/-- Ends an output: a command now reads what was printed to it. -/
def endOutput (r : Runner) (o : Output) : Run Nat := do
  if o.command then
    return endingOf (← act (Act.feed r ["/bin/sh", "-c", o.name] (String.join o.parts.reverse)))
  else
    let _ ← writeOut o
    return 0

/-- Prints to an output, which is opened if it is not yet. -/
def putTo (outlet : Outlet) (name text : String) : Run Unit := do
  let command := outlet = .command
  if !command && (name = "/dev/stdout" || name = "-") then put text
  else if !command && name = "/dev/stderr" then
    let _ ← act (Act.write 2 text)
  else
    let isIt (o : Output) : Bool := o.name = name && o.command = command
    let o ← match (← get).outputs.find? isIt with
      | some o => pure o
      | none =>
        if command then flushPrinted
        else
          match ← act (Act.writeFile name "" (outlet = .appended)) with
          | .ok () => pure ()
          | .error reason =>
            throw (.refused ("cannot open \"" ++ name ++ "\" for output (" ++ reason ++ ")"))
        pure ⟨name, command, [], 0⟩
    let o := { o with parts := text :: o.parts, size := o.size + text.utf8ByteSize }
    let o ← if !command && outputBlock ≤ o.size then writeOut o else pure o
    modify fun m => { m with outputs := o :: m.outputs.filter fun o => !isIt o }

/-! ### Inputs -/

/-- Opens a file to be read; nothing where that fails. -/
def openInput (name : String) : Run (Except String Input) := do
  if name = "-" || name = "/dev/stdin" then
    match ← act (Act.peekAll? 0) with
    | .ok text =>
      let cs := text.toList
      return .ok ⟨name, false, cs, cs.length, true, 0⟩
    | .error fault => return .error fault.reason
  else
    match ← act (Act.readFile name) with
    | .ok text      => return .ok ⟨name, false, text.toList, 0, false, 0⟩
    | .error reason => return .error reason

/-- Runs a command whose output is read. -/
def openCommand (r : Runner) (command : String) : Run Input := do
  flushPrinted
  let (text, status) ← act (Act.outputOf r ["/bin/sh", "-c", command])
  return ⟨command, true, text.toList, 0, false, endingOf status⟩

/-- The next record of an input. -/
def Input.take? (i : Input) (separator : Separator) : Option (String × Input) :=
  let rest := match separator with
    | .nothing => i.rest.dropWhile (· = '\n')
    | _        => i.rest
  if rest.isEmpty then none
  else
    let (text, rest) := takeRecord separator rest
    some (String.ofList text, { i with rest })

/-- What stands between records. -/
def recordSeparator : Run Separator := do separatorFor (← textAt atRS)

/-- The name and the value of an argument that assigns a variable. -/
def assignmentOf? (argument : String) : Option (String × String) :=
  let cs := argument.toList
  let name := cs.takeWhile (· != '=')
  if isName (String.ofList name) && name.length < cs.length then
    some (String.ofList name, escaped (String.ofList (cs.drop (name.length + 1))))
  else none

/-- Assigns a shared variable by its name. -/
def assignNamed (names : Array String) (name value : String) : Run Unit := do
  match names.idxOf? name with
  | some n => setVariable (.shared n) (.input value)
  | none   => return

/-- Makes an input the one whose records are read. -/
def startInput (i : Input) : Run Unit := do
  putShared atFILENAME (.value (.text i.name))
  putNumber atFNR 0.0
  modify ({ · with main := some i })

/-- Goes on to the next argument that is an input; nothing is left where there is none. -/
def advance (names : Array String) : (fuel : Nat) → Run Unit
  | 0 => return
  | fuel + 1 => do
    let m ← get
    let count := truncated (m.standing atARGC).toNumber
    if count ≤ m.index then
      modify ({ · with ended := true, main := none })
      return
    modify fun m => { m with index := m.index + 1 }
    let argument ← match (m.tables.getD atARGV .empty).value? (.number m.index) with
      | some v => textOf v
      | none   => pure ""
    if argument = "" then advance names fuel
    else
      match assignmentOf? argument with
      | some (name, value) =>
        assignNamed names name value
        advance names fuel
      | none =>
        match ← openInput argument with
        | .ok i => startInput i
        | .error reason =>
          if reason = PathFault.isADirectory.reason then
            throw (.refused ("read error (" ++ reason ++ ")"))
          else throw (.refused ("cannot open " ++ argument ++ " (" ++ reason ++ ")"))

/-- Opens the first input: the standard one where no argument names another. -/
def openFirst (names : Array String) : Run Unit := do
  let m ← get
  if m.index != 0 || m.ended || m.main.isSome then return
  modify ({ · with index := 1 })
  let count := truncated (m.standing atARGC).toNumber
  advance names (count.toNat + 1)
  if (← get).main.isNone then
    modify ({ · with ended := false })
    match ← openInput "-" with
    | .ok i         => startInput i
    | .error reason => throw (.refused ("read error (" ++ reason ++ ")"))

/-- The next record of the arguments, after some more of them are tried. -/
def nextOf (names : Array String) : (fuel : Nat) → Run (Option String)
  | 0 => return none
  | fuel + 1 => do
    let m ← get
    match m.main with
    | none => return none
    | some i =>
      match i.take? (← recordSeparator) with
      | some (text, i) =>
        modify ({ · with main := some i })
        return some text
      | none =>
        let _ ← takeStandard true { i with rest := [] }
        modify ({ · with main := none })
        advance names (m.index + 100000)
        nextOf names fuel

/-- The next record of the arguments, which is counted. -/
def nextRecord (names : Array String) : Run (Option String) := do
  openFirst names
  match ← nextOf names 100000 with
  | none => return none
  | some text =>
    let m ← get
    putNumber atNR ((m.standing atNR).toNumber + 1.0)
    putNumber atFNR ((m.standing atFNR).toNumber + 1.0)
    return some text

/-- Takes from the standard input what inputs have read of it. -/
def settleInputs : Run Unit := do
  let m ← get
  let main ← match m.main with
    | some i => do pure (some (← takeStandard false i))
    | none   => pure none
  let inputs ← m.inputs.mapM (takeStandard false)
  modify ({ · with main, inputs })

/-! ### Random numbers -/

/-- The numbers from which random ones are made, by a seed. -/
def randomOf (seed : UInt32) : Array UInt32 :=
  let first : Array UInt32 := (List.range 30).foldl
    (fun (a : Array UInt32) _ =>
      let last := (a.getD (a.size - 1) 0).toNat
      a.push (16807 * last % 2147483647).toUInt32)
    #[if seed = 0 then 1 else seed]
  let all := (List.range 313).foldl
    (fun (a : Array UInt32) k =>
      a.push (if k < 3 then a.getD k 0 else a.getD (a.size - 31) 0 + a.getD (a.size - 3) 0)) first
  all.extract (all.size - 31) all.size

/-- The next random number, from zero up to one. -/
def random : Run Float := do
  let a := (← get).random
  let n := a.getD 0 0 + a.getD (a.size - 3) 0
  modify ({ · with random := (a.extract 1 a.size).push n })
  return (n >>> 1).toNat.toFloat / 2147483647.0

end BoardConsole.Shell.Scan
