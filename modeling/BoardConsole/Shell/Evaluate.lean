import BoardConsole.Shell.Program

/-!
# Shell — Running commands

What each kind of command does. A failure ends a shell that has been told so only where its status
is not looked at; a fault ends the shell unless a builtin that may fail raised it. What stands
inside a command of its own kind is run by a runner that is handed in, and `runner` ties the knot up
to a depth.
-/

namespace BoardConsole.Shell.Evaluate

open Act

/-! ### Scripts -/

/-- Runs the commands of a text line by line, each before the next one is read. -/
def lines (run : Command → Act Unit) : (fuel : Nat) → Source → (any : Bool) → Act Unit
  | 0, _, _ => return
  | fuel + 1, source, any => do
    let source :=
      { source with aliases := (← process).aliases, documents := (← world).documents }
    match Reader.readLine.run source with
    | .error fault source =>
      modifyWorld ({ · with documents := source.documents })
      modifyProcess ({ · with line := fault.line })
      fail ("Syntax error: " ++ fault.message)
    | .ok none _ => if !any then setStatus 0
    | .ok (some command) source =>
      modifyWorld ({ · with documents := source.documents })
      match command with
      | .nothing => lines run fuel source any
      | command  =>
        run command
        lines run fuel source true

/-- Runs the commands of a text. A text without any succeeds. -/
def script (run : Command → Act Unit) (text : String) : Act Unit := do
  lines run (text.length + 2) (.ofText text [] #[]) false

/-! ### Simple commands -/

/-- The arguments after `command` and those of its options that only change where to look; nothing
where it is to describe a command. -/
def afterCommand? : List String → Option (List String)
  | [] => none
  | a :: rest =>
    match a.toList with
    | ['-', '-'] => if rest.isEmpty then none else some rest
    | '-' :: c :: letters => if (c :: letters).all (· = 'p') then afterCommand? rest else none
    | _ => some (a :: rest)

/-- A command that has been called. -/
structure Call where
  words     : List String
  /-- Whether functions are left out, and no builtin fails for good. -/
  plain     : Bool

/-- Takes `command` from the beginning of words. -/
def Call.ofWords (functions : List (String × Command)) : (fuel : Nat) → Call → Call
  | 0, c => c
  | fuel + 1, c =>
    match c.words with
    | "command" :: rest =>
      if !c.plain && (functions.lookup "command").isSome then c
      else
        match afterCommand? rest with
        | some words => ofWords functions fuel ⟨words, true⟩
        | none       => c
    | _ => c

/-- The builtins that take assignments as arguments. -/
def declares (name : String) : Bool := name == "export" || name == "readonly" || name == "local"

/-- Expands words, the first of which say what becomes of the others. -/
def expandWords (capture : Command → Act String) : List Word → List String → Act (List String)
  | [], acc => return acc
  | w :: rest, acc => do
    let functions := (← process).functions
    let call := Call.ofWords functions (acc.length + 1) ⟨acc, false⟩
    let assigns := match call.words with
      | name :: _ => declares name && (call.plain || (functions.lookup name).isNone)
      | []        => false
    match if assigns then Reader.assignment? w else none with
    | some (name, value) =>
      let text := name ++ "=" ++ (← Expand.value capture value)
      expandWords capture rest (acc ++ [text])
    | none => expandWords capture rest (acc ++ (← Expand.fields capture w))

/-- Shows a command where that is asked for. -/
def trace (descriptors : List (Nat × Nat)) (words : List String) : Act Unit := do
  if ← isSet 'x' then
    let own := (← process).descriptors
    modifyProcess ({ · with descriptors })
    complain (" ".intercalate ("+" :: words))
    modifyProcess ({ · with descriptors := own })

/-- Receives signals at the end of a command. After a failure whose status is not looked at, ends
the shell where it has been told so. -/
def endCommand (r : Runner) (tested : Bool) : Act Unit := do
  receiveAll r true
  if (← status) != 0 && !tested && (← isSet 'e') then throw .exited

/-- Runs a builtin. -/
def runBuiltin (r : Runner) (name : String) (fatal : Bool) (args : List String) : Act Unit := do
  let outer := (← process).builtin
  modifyProcess ({ · with builtin := some name })
  ensuring
    (do
      try
        let builtin := (Builtin.all.lookup name).getD Builtin.true_
        let n ← ensuring (builtin r args) flushPrinted
        if (← process).unprinted then
          warn (name ++ ": I/O error")
          modifyProcess ({ · with unprinted := false })
          setStatus (n ||| 1)
        else setStatus n
      catch
        | .failed => if fatal then throw .failed
        | stop    => throw stop)
    (modifyProcess ({ · with builtin := outer }))

/-- The most functions that are run one inside another. -/
def greatestCalls : Nat := 1000

/-- Runs a function. -/
def runFunction (r : Runner) (tested : Bool) (body : Command) (args : List String) : Act Unit := do
  let outer ← process
  if greatestCalls ≤ outer.calls.length then
    fail ("Maximum function recursion depth (" ++ toString greatestCalls ++ ") reached")
  modifyProcess fun p =>
    { p with
      arguments := args, loops := 0, calls := [] :: p.calls, optionIndex := 1, lettersRead := 0 }
  ensuring
    (do
      try r.run tested body
      catch
        | .returned => pure ()
        | stop      => throw stop)
    (do
      for (name, old) in (← process).calls.headD [] do
        putVariable name old
      modifyProcess fun p =>
        { p with
          arguments := outer.arguments, loops := outer.loops, calls := outer.calls
          optionIndex := outer.optionIndex, lettersRead := outer.lettersRead })

/-- Runs a program in the place of the process; its status is that of the process. -/
def runInPlace (r : Runner) (before : String) (words : List String) : Act Bool := do
  match ← r.program words with
  | .ok n =>
    setStatus n
    return true
  | .error fault =>
    complain (before ++ words.headD "" ++ ": " ++ fault.message)
    -- A name that is empty is not found anywhere.
    setStatus (if words.head? = some "" then Unrun.missing.status else fault.status)
    return false

/-- Runs a program in the place of the shell. -/
def runExec (r : Runner) (args : List String) : Act Unit := do
  match args with
  | [] => setStatus 0
  | words =>
    let outer := (← process).builtin
    modifyProcess ({ · with builtin := some "exec" })
    let before ← head
    modifyProcess ({ · with builtin := outer })
    let traps := (← process).traps
    if !(← runInPlace r before words) then modifyProcess ({ · with traps })
    throw .exited

/-- Runs what a call stands for. -/
def runCall (r : Runner) (tested : Bool) (call : Call) : Act Unit := do
  match call.words with
  | [] => setStatus (← process).taken
  | name :: args =>
    let known := (← process).functions
    match if call.plain then none else known.lookup name with
    | some body => runFunction r tested body args
    | none =>
      if name = "exec" then runExec r args
      else if Builtin.isBuiltin name then
        runBuiltin { r with tested } name (Builtin.isFatal name && !call.plain) args
      else
        let before ← head
        let n ← child r do
          let _ ← runInPlace r before call.words
        setStatus n

/-- Whether the assignments in front of a call stay. -/
def keepsAssignments (functions : List (String × Command)) (call : Call) : Bool :=
  match call.words with
  | []        => true
  | name :: _ => !call.plain && (functions.lookup name).isNone && Builtin.isFatal name

/-- Assigns variables in front of a command, and answers what they were. -/
def assignAll (capture : Command → Act String) (exported : Bool) :
    List (String × Word) → Act (List (String × String) × List (String × Option Variable))
  | [] => return ([], [])
  | (name, word) :: rest => do
    let value ← Expand.value capture word
    let old ← variableOf? name
    assign name value
    if exported then putVariable name (some ⟨some value, true, false⟩)
    let (set, others) ← assignAll capture exported rest
    return ((name, value) :: set, others ++ [(name, old)])

/-- Acts where variables may be declared to be local, if there is a scope for that. -/
def inScope {α : Type} (isOpen : Bool) (act : Act α) : Act α := do
  if isOpen then
    let outer := (← process).calls
    modifyProcess ({ · with calls := [] :: outer })
    ensuring act (modifyProcess ({ · with calls := outer }))
  else act

/-- Runs a simple command. -/
def simple (r : Runner) (tested : Bool) (line : Nat) (assignments : List (String × Word))
    (words : List Word) (redirections : List Redirection) : Act Unit := do
  modifyProcess ({ · with line, taken := 0 })
  let capture := Act.capture r
  let words ← expandWords capture words []
  let functions := (← process).functions
  let call := Call.ofWords functions (words.length + 1) ⟨words, false⟩
  let name := call.words.headD ""
  let isExec := name = "exec" && !call.words.isEmpty
  let outer := (← process).descriptors
  let restore : Act Unit := modifyProcess ({ · with descriptors := outer })
  let keeps := keepsAssignments functions call
  let targets ← inScope (!keeps) (expandTargets capture redirections)
  if !(← redirect targets) then
    restore
    setStatus faulty
    if keeps && !call.words.isEmpty then throw .failed
  else
    let exported := !keeps || (isExec && 1 < call.words.length)
    let act : Act Unit := do
      let (set, before) ← inScope (!keeps) (assignAll capture exported assignments)
      trace outer (set.map (fun (name, value) => name ++ "=" ++ value) ++ words)
      if keeps || set.isEmpty then runCall r tested call
      else
        ensuring (runCall r tested call) do
          for (name, old) in before do
            putVariable name old
    if isExec && call.words.length = 1 then act else ensuring act restore
  endCommand r tested

/-! ### Loops -/

/-- The most turns of a loop. -/
def greatestTurns : Nat := 10000000

/-- How the turn of a loop ends. -/
inductive Turn where
  | done
  | left
deriving DecidableEq

/-- Runs a part of a loop. What leaves further loops is passed on. -/
def turn (act : Act Unit) : Act Turn := do
  try
    act
    return .done
  catch
    | .broken n    => if n ≤ 1 then return .left else throw (.broken (n - 1))
    | .continued n => if n ≤ 1 then return .done else throw (.continued (n - 1))
    | stop         => throw stop

/-- Runs inside one more loop. -/
def inLoop (act : Act Unit) : Act Unit := do
  let outer := (← process).loops
  modifyProcess ({ · with loops := outer + 1 })
  ensuring act (modifyProcess ({ · with loops := outer }))

/-- Whether the condition of a loop was left early, and whether the loop is. -/
inductive Condition where
  | decided (holds : Bool)
  | skipped
  | left

/-- Decides the condition of a loop. -/
def condition (r : Runner) (untilTrue : Bool) (c : Command) : Act Condition := do
  try
    r.run true c
    return .decided (((← status) = 0) != untilTrue)
  catch
    | .broken n    => if n ≤ 1 then return .left else throw (.broken (n - 1))
    | .continued n => if n ≤ 1 then return .skipped else throw (.continued (n - 1))
    | stop         => throw stop

/-- Runs a loop as long as its condition says; the status is that of the last turn. -/
def loop (r : Runner) (tested untilTrue : Bool) (c body : Command) :
    (fuel : Nat) → (last : Nat) → Act Unit
  | 0, last => setStatus last
  | fuel + 1, last => do
    match ← condition r untilTrue c with
    | .left          => setStatus last
    | .skipped       => loop r tested untilTrue c body fuel last
    | .decided false => setStatus last
    | .decided true  =>
      match ← turn (r.run tested body) with
      | .left => return
      | .done => loop r tested untilTrue c body fuel (← status)

/-- Runs a body for each of some words. -/
def each (r : Runner) (tested : Bool) (name : String) (body : Command) : List String → Act Unit
  | [] => return
  | word :: rest => do
    assign name word
    match ← turn (r.run tested body) with
    | .left => return
    | .done => each r tested name body rest

/-! ### Compound commands -/

/-- Runs commands, each in a process of its own that reads what the one before it has written.
Answers the pipes between them. -/
def pipeFrom (r : Runner) (tested : Bool) (input : Option Nat) : List Command → Act (List Nat)
  | [] => return []
  | c :: rest => do
    let start : Act Unit :=
      match input with
      | some k => lead 0 k
      | none   => pure ()
    match rest with
    | [] =>
      let n ← child r do
        start
        r.run tested c
      setStatus n
      return []
    | rest =>
      let pipe := (← world).pipes.size
      let (output, k) ← addPipe { Pipe.ofText [] with limit := some (← world).reach }
      let _ ← child r do
        start
        lead 1 k
        r.run tested c
      return pipe :: (← pipeFrom r tested (some output) rest)

/-- How much further is reached at the next attempt. -/
def reachFactor : Nat := 16

/-- Runs the commands of a pipe. Each of them runs to its end before the next one, and is stopped
where it writes too much; if that was wanted after all, everything is run again with more room. -/
def pipe (r : Runner) (tested : Bool) (commands : List Command) : (attempts : Nat) → Act Unit
  | 0          => return
  | more + 1 => do
    let before ← get
    let pipes ← pipeFrom r tested none commands
    let after ← world
    if more != 0 && pipes.any fun n => after.pipes[n]?.any (·.missed) then
      set { before with world := { before.world with reach := before.world.reach * reachFactor } }
      pipe r tested commands more
      modifyWorld ({ · with reach := before.world.reach })

/-- How often a pipe is run at most. -/
def greatestAttempts : Nat := 4

/-- Whether one of some patterns matches. -/
def matchesAny (capture : Command → Act String) (text : List Char) : List Word → Act Bool
  | [] => return false
  | w :: rest => do
    if Pattern.isMatch (← Expand.pattern capture w) text then return true
    matchesAny capture text rest

/-- Runs the first arm that matches. -/
def arms (r : Runner) (tested : Bool) (text : List Char) :
    List (List Word × Command) → Act Unit
  | [] => setStatus 0
  | (patterns, body) :: rest => do
    if ← matchesAny (Act.capture r) text patterns then
      match body with
      | .nothing => setStatus 0
      | body     => r.run tested body
    else arms r tested text rest

/-- Runs a command whose descriptors are led elsewhere. -/
def redirected (r : Runner) (line : Nat) (redirections : List Redirection) (act : Act Unit) :
    Act Unit := do
  modifyProcess ({ · with line })
  let targets ← expandTargets (Act.capture r) redirections
  let outer := (← process).descriptors
  ensuring
    (do if ← redirect targets then act else setStatus faulty)
    (modifyProcess ({ · with descriptors := outer }))

/-- Runs a command in a process of its own. -/
def subshell (r : Runner) (tested : Bool) (line : Nat) (redirections : List Redirection)
    (c : Command) : Act Unit := do
  modifyProcess ({ · with line })
  let targets ← expandTargets (Act.capture r) redirections
  let n ← child r do
    if ← redirect targets then r.run tested c
    else
      setStatus faulty
      throw .failed
  setStatus n

/-- Runs a command. Where its status is looked at, a failure does not end the shell. -/
def command (r : Runner) (tested : Bool) : Command → Act Unit
  | .nothing => return
  | .simple line assignments words redirections =>
    patiently r (simple r tested line assignments words redirections)
  | .redirected line c redirections => redirected r line redirections (r.run tested c)
  | .subshell line c redirections => do
    subshell r tested line redirections c
    endCommand r tested
  | .background c => do
    defer c
    setStatus 0
  | .pipe commands => do
    pipe r tested commands greatestAttempts
    endCommand r tested
  | .not c => do
    r.run true c
    setStatus (if (← status) = 0 then 1 else 0)
  | .sequence a b => do
    r.run tested a
    r.run tested b
  | .and a b => do
    r.run true a
    if (← status) = 0 then r.run tested b
  | .or a b => do
    r.run true a
    if (← status) != 0 then r.run tested b
  | .choice c yes no => do
    r.run true c
    if (← status) = 0 then r.run tested yes
    else
      match no with
      | .nothing => setStatus 0
      | no       => r.run tested no
  | .loop untilTrue c body => inLoop (loop r tested untilTrue c body greatestTurns 0)
  | .each line name words body => do
    modifyProcess ({ · with line })
    let texts := (← words.mapM (Expand.fields (Act.capture r))).flatten
    if texts.isEmpty then setStatus 0
    inLoop (each r tested name body texts)
  | .case line word armsOf => do
    modifyProcess ({ · with line })
    let text ← Expand.text (Act.capture r) word
    arms r tested text.toList armsOf
  | .define name body => do
    modifyProcess fun p =>
      { p with functions := (name, body) :: p.functions.filter (·.1 != name) }
    setStatus 0

/-- Runs a command, unless commands are only to be read. -/
def step (r : Runner) (tested : Bool) (c : Command) : Act Unit := do
  if !(← isSet 'n') then command r tested c

/-- The runner of what stands inside commands, up to a depth. -/
def runner (utilities : List (String × Builtin)) : (depth : Nat) → Runner
  | 0 =>
    { run := fun _ _ => fail "Too deep", script := fun _ _ => fail "Too deep"
      program := fun _ => return .error .missing, tested := false }
  | depth + 1 =>
    let below := runner utilities depth
    { run     := step below
      script  := fun tested => script (step below tested)
      tested  := false
      program := fun words => Program.run below utilities words }

end BoardConsole.Shell.Evaluate
