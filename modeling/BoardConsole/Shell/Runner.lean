import BoardConsole.Shell.Redirect
import BoardConsole.Shell.Signal

/-!
# Shell — Processes that run

How a process is started, what signals do to it, and how it ends. What runs commands is handed in,
as is what runs the text of a script.
-/

namespace BoardConsole.Shell

/-- What commands and programs are run by. -/
structure Runner where
  /-- Runs a command. Where its status is looked at, a failure does not end the shell. -/
  run     : (tested : Bool) → Command → Act Unit
  /-- Runs the commands of a text, whose status may be looked at too. -/
  script  : (tested : Bool) → String → Act Unit
  /-- Runs a program with its arguments in the place of the process. -/
  program : List String → Act (Except Unrun Nat)
  /-- Whether the status of what is run at present is looked at. -/
  tested  : Bool

namespace Act

/-! ### Traps and signals -/

/-- Runs a trap; the status is afterwards what it was before. -/
def runTrap (r : Runner) (action : String) : Act Unit := do
  let before ← status
  let outer := (← process).interrupted
  modifyProcess ({ · with interrupted := some before })
  r.script false action
  modifyProcess ({ · with interrupted := outer })
  setStatus before

/-- Does what a signal does to the process. -/
def receive (r : Runner) (signal : Nat) : Act Unit := do
  let traps := (← process).traps
  match if Signal.isCertain signal then none else traps.lookup signal with
  | some ""     => return
  | some action => runTrap r action
  | none        => if !Signal.isHarmless signal then throw (.killed signal)

/-- Receives the signals that are on their way to the process. Traps wait for the end of a command,
unless it has come. -/
def receiveAll (r : Runner) (traps : Bool) : Act Unit := do
  if (← world).signals.isEmpty then return
  let p ← process
  let isMine (s : Nat × Nat) : Bool :=
    s.1 = p.number && (traps || Signal.isCertain s.2 || (p.traps.lookup s.2).isNone)
  let mine := (← world).signals.filter isMine
  modifyWorld fun w => { w with signals := w.signals.filter fun s => !isMine s }
  for (_, signal) in mine do
    receive r signal

/-- Sends a signal to a process. Answers whether there is one. -/
def send (target signal : Nat) : Act Bool := do
  let w ← world
  if w.deferred.any (·.process.number = target) then
    if !Signal.isHarmless signal then
      modifyWorld fun w =>
        { w with
          deferred := w.deferred.filter (·.process.number != target)
          ended    := (target, Signal.status signal) :: w.ended }
    return true
  else if w.alive.contains target then
    if signal != 0 then modifyWorld fun w => { w with signals := w.signals ++ [(target, signal)] }
    return true
  else return false

/-! ### The end of a process -/

/-- Runs what is to be run at the end of a process, and answers its status. -/
def leave (r : Runner) : Act Nat := do
  match (← process).traps.lookup 0 with
  | none | some "" => status
  | some action =>
    let before ← status
    modifyProcess fun p =>
      { p with traps := p.traps.filter (·.1 != 0), interrupted := some before }
    try
      r.script false action
      return before
    catch
      | .killed signal              => throw (.killed signal)
      | .starved                    => throw .starved
      | .exited | .failed           => status
      | .broken _ | .continued _ | .returned => return before

/-- How a process ended. -/
inductive Ending where
  | exited (status : Nat)
  | killed (signal : Nat)

/-- Runs a process to its end. -/
def conclude (r : Runner) (act : Act Unit) : Act Ending := do
  try
    try act
    catch
      | .killed signal => throw (.killed signal)
      | .starved       => throw .starved
      | _              => pure ()
    return .exited ((← leave r) % 256)
  catch
    | .killed signal => return .killed signal
    | .starved       => throw .starved
    | _              => return .exited ((← status) % 256)

/-- The status that an ending is seen as. -/
def Ending.status : Ending → Nat
  | exited status => status
  | killed signal => Signal.status signal

/-! ### Starting processes -/

/-- The number of a new process. -/
def newNumber : Act Nat :=
  modifyGet fun s =>
    let n := s.world.nextNumber
    (n, { s with world := { s.world with nextNumber := n + 1 } })

/-- What a new process has of the one that starts it: no jobs, and of the traps only those that
ignore a signal. -/
def branch (p : Process) (number : Nat) : Process :=
  { p with
    number, jobs := [], printed := [], unprinted := false, interrupted := none
    traps := p.traps.filter fun t => t.2 = "" && t.1 != 0 }

/-- Runs something in a process of its own, up to its end. -/
def inProcess (r : Runner) (p : Process) (act : Act Unit) : Act Ending := do
  let outer ← process
  modify fun s =>
    { s with world := { s.world with alive := p.number :: s.world.alive }, process := p }
  let ending ← conclude r act
  modify fun s =>
    { s with
      world   := { s.world with alive := s.world.alive.filter (· != p.number) }
      process := outer }
  return ending

/-- Runs something in a process of its own, and reports the signal that ended it. -/
def child (r : Runner) (act : Act Unit) : Act Nat := do
  let ending ← inProcess r (branch (← process) (← newNumber)) act
  match ending with
  | .killed signal =>
    match Signal.report? signal with
    | some text => complain text
    | none      => pure ()
  | .exited _ => pure ()
  receiveAll r false
  return ending.status

/-- Runs a program in a process of its own. -/
def launch (r : Runner) (words : List String) : Act (Except Unrun Nat) := do
  modifyWorld ({ · with unrun := none })
  let n ← child r do
    match ← r.program words with
    | .ok n        => setStatus n
    | .error fault =>
      modifyWorld ({ · with unrun := some fault })
      setStatus fault.status
  match (← world).unrun with
  | some fault =>
    modifyWorld ({ · with unrun := none })
    return .error fault
  | none => return .ok n

/-- What a command prints in a process of its own, without the ends of the last lines. -/
def capture (r : Runner) (command : Command) : Act String := do
  match command with
  | .nothing => return ""
  | command =>
    let n := (← world).pipes.size
    let (_, k) ← addPipe (.ofText [])
    let status ← child r do
      lead 1 k
      r.run false command
    modifyProcess ({ · with taken := status })
    let held ← emptyPipe n
    let text := held.filter (· != '\x00')
    return String.ofList (text.reverse.dropWhile (· = '\n')).reverse

/-- What a program prints in a process of its own, and its status. -/
def outputOf (r : Runner) (words : List String) : Act (String × Nat) := do
  let n := (← world).pipes.size
  let (_, k) ← addPipe (.ofText [])
  let status ← child r do
    lead 1 k
    match ← r.program words with
    | .ok n        => setStatus n
    | .error fault => setStatus fault.status
  return (String.ofList (← emptyPipe n), status)

/-- Runs a program that reads a text, and answers its status. -/
def feed (r : Runner) (words : List String) (text : String) : Act Nat := do
  let (k, _) ← addPipe (.ofText text.toList)
  child r do
    lead 0 k
    match ← r.program words with
    | .ok n        => setStatus n
    | .error fault => setStatus fault.status

/-! ### The background -/

/-- Puts a command into the background. -/
def defer (command : Command) : Act Unit := do
  let number ← newNumber
  let p := branch (← process) number
  let nothing ← addDescription ⟨.null, 0, false, true, false⟩
  let p := { p with descriptors := (0, nothing) :: p.descriptors.filter (·.1 != 0) }
  modifyWorld fun w => { w with deferred := w.deferred ++ [⟨p, command, w.time⟩] }
  modifyProcess fun p => { p with jobs := p.jobs ++ [number], lastBackground := some number }

/-- Runs a process of the background. -/
def runDeferred (r : Runner) (d : Deferred) : Act Unit := do
  let now := (← world).time
  modifyWorld fun w =>
    { w with
      deferred := w.deferred.filter (·.process.number != d.process.number)
      time     := d.start }
  let ending ← inProcess r d.process (r.run false d.command)
  modifyWorld fun w =>
    { w with
      ended := (d.process.number, ending.status) :: w.ended
      time  := max now w.time }

/-- Runs the processes of the background that end before some time has passed. -/
def settle (r : Runner) : Act Unit := do
  for d in (← world).deferred do
    let before ← get
    runDeferred r d
    if before.world.time < (← world).time then set before

/-- Acts; where there is nothing to read yet, the processes of the background come first. -/
def patiently (r : Runner) (act : Act Unit) : Act Unit := do
  if (← world).deferred.isEmpty || (← world).volume.pipes.isEmpty then return ← act
  let before ← get
  try act
  catch
    | .starved =>
      set before
      for d in before.world.deferred do
        runDeferred r d
      act
    | stop => throw stop

/-- The status of a process that was started in the background, once it has ended; nothing if there
is no such process. -/
def await (r : Runner) (number : Nat) : Act (Option Nat) := do
  match (← world).deferred.find? (·.process.number = number) with
  | some d => runDeferred r d
  | none   => pure ()
  return (← world).ended.lookup number

/-- Lets time pass. -/
def sleep (r : Runner) (nanos : Nat) : Act Unit := do
  modifyWorld fun w => { w with time := w.time + nanos }
  if 0 < nanos then settle r

end Act

end BoardConsole.Shell
