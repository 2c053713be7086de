import BoardConsole.Functions.Table
import BoardConsole.Script.Cursor
import BoardConsole.Script.Lexer
import BoardConsole.TaskTable

/-!
# Console — Running lines

A console runs lines against its host. The whole line is split into tokens before anything of it
runs; then the tokens are run in one pass from left to right, each piece as soon as it has been
read: arguments before the call they belong to, a statement before the separator after it. The first
error, and be it a token that cannot stand where it does, ends the line with all that was done before
it still done. A name is a registered function or else a stored macro, whose body runs as a line of
its own.

The number of nested macro calls is bounded: `call` recurses on the number of calls that are still
allowed, and `depth` counts those that are open.
-/

namespace BoardConsole

/-- A console: what its lines run against, and the tasks they started. -/
structure Console where
  host         : Host
  functions    : FunctionTable
  tasks        : TaskTable
  /-- The longest time between two background passes. -/
  idleInterval : Duration
  /-- The macro calls that are open. -/
  depth        : Nat

/-- An action of a console that can fail; what it did before failing stays done. -/
abbrev Action := EStateM CommandError Console

namespace Console

/-- The most macro calls inside one another. -/
def maxDepth : Nat := 16

/-- Changes the host. -/
def onHost (f : Host → Host) : Action Unit :=
  modify fun c => { c with host := f c.host }

/-- Prints a line. -/
def printLine (text : String) : Action Unit := onHost (·.emitLine text)

/-- Reads the clock. -/
def readClock : Action Millis := do
  let c ← get
  let (now, host) := c.host.readClock
  set { c with host }
  return now

/-- Runs an action of the host. -/
def hostAction {α : Type} (action : HostAction α) : Action α := fun c =>
  match action c.host with
  | .ok a host    => .ok a { c with host }
  | .error e host => .error (.host e) { c with host }

/-- Calls a function, with the listing of the stored macros at hand. -/
def callFunction (f : Function) (args : List Arg) : Action Arg :=
  .num <$> hostAction (f ⟨args, Host.printListing⟩)

/-- Runs an action inside one more macro call. However it ends, the call is closed again. -/
def nested {α : Type} (action : Action α) : Action α := fun c =>
  match action { c with depth := c.depth + 1 } with
  | .ok a c    => .ok a { c with depth := c.depth - 1 }
  | .error e c => .error e { c with depth := c.depth - 1 }

/-! ### What statements do -/

/-- Stores a macro. -/
def define (name body : String) : Action Unit := do
  if Script.keywords.contains name then throw (.malformed (.reserved name))
  if body.contains '\x00' then throw (.malformed .nulInBody)
  hostAction do
    let h ← get
    let storage ← MonadExcept.ofExcept (h.storage.define name body)
    set { h with storage }

/-- Removes a macro. -/
def remove (name : String) : Action Unit := do
  let c ← get
  match c.host.storage.remove? name with
  | some storage => set { c with host := { c.host with storage } }
  | none         => throw (.unknownName name)

/-- Removes every macro. -/
def removeAll : Action Unit := onHost fun h => { h with storage := h.storage.eraseAll }

/-- How much of a storage is used, in words. -/
def usageText (s : Storage) : String :=
  s!"storage: {s.used} bytes used, {s.free} free, {s.entries.length} macros"

/-- A task in words. -/
def taskText (task : Task) : String :=
  s!"{task.id}: {task.name} every {task.interval.toNat}ms"

/-- Runs a stored macro as a task, first due now. A negative interval is zero. -/
def start (name : String) (interval : Int32) : Action Unit := do
  let c ← get
  if (c.host.storage.body? name).isNone then throw (.unknownName name)
  let now ← readClock
  let c ← get
  match c.tasks.start name (UInt64.ofNat interval.toInt.toNat) now with
  | .ok (_, tasks) => set { c with tasks }
  | .error e       => throw e

/-- Stops the task in a slot, if there is one. -/
def stop (id : Int32) : Action Unit :=
  modify fun c => if id < 0 then c else { c with tasks := (c.tasks.stop id.toInt.toNat).2 }

/-- Stops every task. -/
def stopAll : Action Unit := modify fun c => { c with tasks := c.tasks.stopAll }

/-- Prints values, divided by blanks. -/
def printValues (vs : List Arg) : Action Unit :=
  printLine (" ".intercalate (vs.map Arg.toText))

/-- Prints how much of the storage is used. -/
def printUsage : Action Unit := do
  let c ← get
  printLine (usageText c.host.storage)

/-- Prints the tasks. -/
def printTasks : Action Unit := do
  let c ← get
  c.tasks.toList.forM fun task => printLine (taskText task)

/-! ### Expressions -/

section Running
open Script
variable (call : String → List Arg → Action Arg)

mutual

/-- Runs the expression that the tokens begin with: its value, and what is left. -/
def expression (ts : List Token) : Action (Arg × Rest ts) :=
  match ts with
  | [] => throw (.malformed .expressionExpected)
  | .bang :: us => do
    let (v, rest) ← expression us
    return (.num (if v.toNum = 0 then 1 else 0), rest.weaken (List.suffix_cons _ us))
  | .minus :: us => do
    let (v, rest) ← expression us
    return (.num (-v.toNum), rest.weaken (List.suffix_cons _ us))
  | .num n :: us => return (.num n, ⟨us, List.suffix_cons _ us⟩)
  | .str text :: us => return (.str text, ⟨us, List.suffix_cons _ us⟩)
  | .ident name :: .lparen :: .rparen :: us => do
    let v ← call name []
    return (v, .after (suffix_cons_cons _ _ (.rparen :: us)))
  | .ident name :: .lparen :: us => do
    let (vs, rest) ← arguments us
    let v ← call name vs
    return (v, rest.weaken (suffix_cons_cons _ _ us))
  | .ident name :: us => do
    let v ← call name []
    return (v, ⟨us, List.suffix_cons _ us⟩)
  | tok :: _ => throw (.malformed (.unexpected tok))
termination_by (ts.length, 0)

/-- Runs the arguments up to the closing parenthesis, from left to right. -/
def arguments (ts : List Token) : Action (List Arg × Rest ts) := do
  let (v, rest) ← expression ts
  match rest with
  | ⟨.comma :: us, h⟩ =>
    let (vs, rest) ← arguments us
    return (v :: vs, rest.weaken (suffix_of_cons_suffix h))
  | ⟨.rparen :: _, h⟩ => return ([v], .after h)
  | _ => throw (.malformed .closeExpected)
termination_by (ts.length, 1)
decreasing_by
  · exact Prod.Lex.right _ (by omega)
  · exact Prod.Lex.left _ _ (length_lt_of_suffix h)

end

/-- Runs the expressions of a comma-separated list, at least one. -/
def expressions (ts : List Token) : Action (List Arg × Rest ts) := do
  let (v, rest) ← expression call ts
  match rest with
  | ⟨.comma :: us, h⟩ =>
    let (vs, rest) ← expressions us
    return (v :: vs, rest.weaken (suffix_of_cons_suffix h))
  | rest => return ([v], rest)
termination_by ts.length
decreasing_by exact length_lt_of_suffix h

/-! ### Statements -/

/-- The name that the tokens begin with. -/
def expectName (ts : List Token) : Action (String × Rest ts) :=
  match readName ts with
  | .ok found    => return found
  | .error fault => throw (.malformed fault)

/-- Runs what follows the keyword `function`. -/
def runDefine (ts : List Token) : Action (Rest ts) := do
  let (name, rest) ← expectName ts
  match rest with
  | ⟨.body text :: _, h⟩ =>
    define name text
    return .after h
  | _ => throw (.malformed .bodyExpected)

/-- Runs what follows the keyword `rm`. -/
def runRemove (ts : List Token) : Action (Rest ts) :=
  match ts with
  | .star :: us => do
    removeAll
    return ⟨us, List.suffix_cons _ us⟩
  | ts => do
    let (name, rest) ← expectName ts
    remove name
    return rest

/-- Runs what follows the keyword `run`. -/
def runStart (ts : List Token) : Action (Rest ts) := do
  let (name, rest) ← expectName ts
  match rest with
  | ⟨.comma :: us, h⟩ =>
    let (interval, rest) ← expression call us
    start name interval.toNum
    return rest.weaken (suffix_of_cons_suffix h)
  | rest =>
    start name 0
    return rest

/-- Runs what follows the keyword `stop`. -/
def runStop (ts : List Token) : Action (Rest ts) :=
  if atEnd ts then do
    stopAll
    return .all ts
  else do
    let (id, rest) ← expression call ts
    stop id.toNum
    return rest

/-- Runs what follows the keyword `print`. -/
def runPrint (ts : List Token) : Action (Rest ts) :=
  if atEnd ts then do
    printValues []
    return .all ts
  else do
    let (vs, rest) ← expressions call ts
    printValues vs
    return rest

/-- Runs what follows a keyword. -/
def runKeyword (keyword : String) (ts : List Token) : Action (Rest ts) :=
  if keyword = "function" then runDefine ts
  else if keyword = "rm" then runRemove ts
  else if keyword = "ls" then do
    onHost Host.printListing
    return .all ts
  else if keyword = "peep" then do
    printUsage
    return .all ts
  else if keyword = "ps" then do
    printTasks
    return .all ts
  else if keyword = "run" then runStart call ts
  else if keyword = "stop" then runStop call ts
  else runPrint call ts

/-- Runs the statement that the tokens begin with. Only an expression has a value. -/
def statement (ts : List Token) : Action (Option Arg × Rest ts) :=
  match ts with
  | .ident word :: us =>
    if keywords.contains word then do
      let rest ← runKeyword call word us
      return (none, rest.weaken (List.suffix_cons _ us))
    else do
      let (v, rest) ← expression call (.ident word :: us)
      return (some v, rest)
  | ts => do
    let (v, rest) ← expression call ts
    return (some v, rest)

/-- Runs the statements of the tokens; the value is that of the last expression among them, or
`last`. -/
def runTokens (last : Arg) (ts : List Token) : Action Arg :=
  match ts with
  | []          => return last
  | .semi :: us => runTokens last us
  | tok :: us   => do
    let (v, rest) ← statement call (tok :: us)
    match rest with
    | ⟨[], _⟩           => return v.getD last
    | ⟨.semi :: us, _h⟩ => runTokens (v.getD last) us
    | ⟨other :: _, _⟩   => throw (.malformed (.unexpected other))
termination_by ts.length
decreasing_by
  · simp
  · exact length_lt_of_suffix _h

/-- Runs a line. -/
def runLine (line : String) : Action Arg :=
  match tokenize line with
  | .error fault => throw (.malformed fault)
  | .ok ts       => runTokens call (.num 0) ts

end Running

/-! ### Calls -/

/-- Calls a function, or a stored macro by running its body with `run`. -/
def invoke (run : String → Action Arg) (name : String) (args : List Arg) : Action Arg := do
  let c ← get
  match c.functions.lookup? name with
  | some f => callFunction f args
  | none =>
    match c.host.storage.body? name with
    | none => throw (.unknownName name)
    | some body =>
      if !args.isEmpty then throw (.malformed (.noArguments name))
      run body

/-- Calls a function or a stored macro, where `levels` more macro calls may be open at once. -/
def call : Nat → String → List Arg → Action Arg
  | 0          => invoke fun _ => throw (.recursionLimit maxDepth)
  | levels + 1 => invoke fun body => nested (runLine (call levels) body)

/-! ### Whole lines -/

/-- Runs a line and answers the value of its last expression. -/
def execute (line : String) : Action Arg := do
  let c ← get
  runLine (call (maxDepth - c.depth)) line

/-- Prints an error. -/
def report (c : Console) (e : CommandError) : Console :=
  { c with host := c.host.emitLine s!"error: {e.message}" }

/-- Runs a line typed at the console, and prints the error that ends it. -/
def doCommand (line : String) (c : Console) : Console :=
  match execute line { c with depth := 0 } with
  | .ok _ c    => c
  | .error e c => c.report e

/-- A console on a host. -/
def new (host : Host) (functions : FunctionTable) (slots : Nat) (idleInterval : Duration) :
    Console where
  host         := host
  functions    := functions
  tasks        := .empty slots
  idleInterval := idleInterval
  depth        := 0

end Console

end BoardConsole
