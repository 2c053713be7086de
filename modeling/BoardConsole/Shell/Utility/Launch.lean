import BoardConsole.Shell.Utility.Names
import BoardConsole.Shell.Utility.Text

/-!
# Shell — Utilities that run programs

Running a program with other variables, for a time, or with arguments that are read.
-/

namespace BoardConsole.Shell.Utility

open Act

/-! ### In the place of the process -/

/-- Says why a program was not run, and answers the status. -/
def reportUnrun (program name : String) (fault : Unrun) : Act Nat := do
  let reason := match fault with
    | .missing => PathFault.missing.reason
    | .denied  => "Permission denied"
  complain (program ++ ": " ++ name ++ ": " ++ reason)
  return fault.status

/-- Where programs are looked for if no variable says so. -/
def standingSearchPath : String := "/bin:/usr/bin"

/-- Runs a program in the place of a utility, with some words for that it cannot. -/
def handOverOr (failure : String) (r : Runner) (program : String) (words : List String) : Act Nat := do
  if (← value? "PATH").isNone then
    putVariable "PATH" (some ⟨some standingSearchPath, false, false⟩)
  match ← r.program words with
  | .ok n        => return n
  | .error fault => reportUnrun program (failure ++ quoted (words.headD "")) fault

/-- Runs a program in the place of a utility. -/
def handOver : Runner → String → List String → Act Nat := handOverOr ""

def envUsage : Usage :=
  { program := "env", letters := "iu:C:0", misuse := 125
    names := [("ignore-environment", 'i'), ("unset", 'u'), ("chdir", 'C'), ("null", '0')] }

/-- Runs a program with other variables, or prints them. -/
def env : Builtin := fun r args => do
  let args := args.map fun s => if s = "-" then "-i" else s
  envUsage.runInOrder args fun a => do
    if a.has 'i' then
      modifyProcess fun p => { p with store := p.store.filter (!·.2.exported) }
    for (letter, name) in a.options do
      if letter = 'u' then putVariable name none
    let assignments := a.rest.takeWhile (·.contains '=')
    for word in assignments do
      let (name, value) := splitAssignment word
      putVariable name (some ⟨some (value.getD ""), true, false⟩)
    match a.rest.drop assignments.length with
    | [] =>
      let ending := if a.has '0' then "\x00" else "\n"
      let known ← environment
      printChecked "env" (String.join (known.map fun (name, value) => name ++ "=" ++ value ++ ending))
    | words =>
      match a.last? 'C' with
      | none => pure ()
      | some directory =>
        match ← look true directory with
        | .ok (.directory, path) => modifyProcess ({ · with directory := path })
        | .ok _ | .error _ =>
          envUsage.complain ("cannot change directory to " ++ quoted directory ++ ": " ++
            PathFault.missing.reason)
          return 125
      handOver r "env" words

def nohupUsage : Usage := { program := "nohup", letters := "", names := [], misuse := 125 }

/-- The signal of a lost terminal. -/
def hangup : Nat := 1

/-- Runs a program that a lost terminal does not end. -/
def nohup : Builtin := fun r args => nohupUsage.runInOrder args fun a => do
  if a.rest.isEmpty then return ← nohupUsage.refuse "missing operand"
  modifyProcess fun p => { p with traps := (hangup, "") :: p.traps.filter (·.1 != hangup) }
  handOverOr "failed to run command " r "nohup" a.rest

def niceUsage : Usage :=
  { program := "nice", letters := "n:", names := [("adjustment", 'n')], misuse := 125 }

/-- Runs a program with another priority. -/
def nice : Builtin := fun r args => niceUsage.runInOrder args fun a => do
  if a.rest.isEmpty then
    if a.has 'n' then return ← niceUsage.refuse "a command must be given with an adjustment"
    return ← printChecked "nice" "0\n"
  handOver r "nice" a.rest

def stdbufUsage : Usage :=
  { program := "stdbuf", letters := "i:o:e:", misuse := 125
    names := [("input", 'i'), ("output", 'o'), ("error", 'e')] }

/-- Runs a program whose text may be put out in other portions. -/
def stdbuf : Builtin := fun r args => stdbufUsage.runInOrder args fun a => do
  for (letter, mode) in a.options do
    if letter = 'i' && mode = "L" then
      return ← stdbufUsage.refuse "line buffering stdin is meaningless"
    if mode != "L" && (sizeValue? mode).isNone then
      stdbufUsage.complain ("invalid mode " ++ cited mode)
      return 125
  if a.rest.isEmpty then return ← stdbufUsage.refuse "missing operand"
  if a.options.isEmpty then
    return ← stdbufUsage.refuse "you must specify a buffering mode option"
  handOverOr "failed to run command " r "stdbuf" a.rest

def setsidUsage : Usage :=
  { program := "setsid", letters := "cfw", misuse := 1
    names := [("ctty", 'c'), ("fork", 'f'), ("wait", 'w')] }

/-- Runs a program without a terminal. -/
def setsid : Builtin := fun r args => setsidUsage.runInOrder args fun a => do
  match a.rest with
  | [] => setsidUsage.refuse "no command specified"
  | name :: _ =>
    match ← r.program a.rest with
    | .ok n        => return n
    | .error fault => reportUnrun "setsid" ("failed to execute " ++ name) fault

/-! ### Time -/

/-- The nanoseconds of a second. -/
def second : Nat := 1000000000

/-- The nanoseconds that a text spells: a number of seconds, or of what a letter after it says. -/
def interval? (s : String) : Option Nat :=
  let cs := s.toList
  let (digits, unit) := match cs.getLast? with
    | some 's' => (cs.dropLast, 1)
    | some 'm' => (cs.dropLast, 60)
    | some 'h' => (cs.dropLast, 3600)
    | some 'd' => (cs.dropLast, 86400)
    | _        => (cs, 1)
  if s = "inf" || s = "infinity" then some (second * 86400 * 36500)
  else
    let whole := digits.takeWhile Char.isDigit
    let count (digits : List Char) (places : Nat) : Nat :=
      Arithmetic.valueOf 10 digits * unit * second / Nat.pow 10 places
    match digits.drop whole.length with
    | [] => if whole.isEmpty then none else some (count whole 0)
    | '.' :: fraction =>
      if fraction.all Char.isDigit && !(whole ++ fraction).isEmpty then
        some (count (whole ++ fraction) fraction.length)
      else none
    | _ => none

def sleepUsage : Usage := { program := "sleep", letters := "", names := [], misuse := 1 }

/-- Lets time pass. -/
def sleep : Builtin := fun r args => sleepUsage.run args fun a => do
  if a.rest.isEmpty then return ← sleepUsage.refuse "missing operand"
  match a.rest.find? fun s => (interval? s).isNone with
  | some s => sleepUsage.refuse ("invalid time interval " ++ cited s)
  | none =>
    Act.sleep r ((a.rest.filterMap interval?).foldl (· + ·) 0)
    return 0

def timeoutUsage : Usage :=
  { program := "timeout", letters := "k:s:fpv", misuse := 125
    names := [("kill-after", 'k'), ("signal", 's'), ("foreground", 'f'), ("preserve-status", 'p')] }

/-- The status of a program whose time is over. -/
def overdue : Nat := 124

/-- Runs a program for some time. -/
def timeout : Builtin := fun r args => timeoutUsage.runInOrder args fun a => do
  match a.rest with
  | [] | [_] =>
    complain timeoutUsage.hint
    return timeoutUsage.misuse
  | time :: words =>
    match interval? time, (a.last? 's').all fun s => (Signal.ofText? s).isSome with
    | none, _       => timeoutUsage.refuse ("invalid time interval " ++ cited time)
    | _, false      =>
      timeoutUsage.refuse (cited ((a.last? 's').getD "") ++ ": invalid signal")
    | some limit, _ =>
      let before ← get
      match ← launch r words with
      | .error fault => reportUnrun "timeout" ("failed to run command " ++ quoted (words.headD "")) fault
      | .ok n =>
        let passed := (← world).time - before.world.time
        if 0 < limit && limit < passed then
          -- What was done up to then is kept, the time after it is not.
          modifyWorld fun w => { w with time := before.world.time + limit }
          let signal := ((a.last? 's').bind Signal.ofText?).getD 15
          return if a.has 'p' || signal = 9 then Signal.status signal else overdue
        else return n

/-! ### Arguments that are read -/

def xargsUsage : Usage :=
  { program := "xargs", letters := "0a:d:E:I:L:n:P:prs:tx", misuse := 1
    names := [("null", '0'), ("max-args", 'n'), ("no-run-if-empty", 'r'), ("delimiter", 'd'),
      ("replace", 'I'), ("verbose", 't'), ("max-procs", 'P')] }

/-- The words of a text, with quotes and backslashes; nothing where a quote does not end. -/
def quotedWords : (fuel : Nat) → (word : Option (List Char)) → List Char → Option (List String)
  | 0, _, _ => some []
  | fuel + 1, word, cs =>
    let finished : List String := match word with
      | some w => [String.ofList w.reverse]
      | none   => []
    let own := word.getD []
    match cs with
    | [] => some finished
    | '\\' :: c :: rest => quotedWords fuel (some (c :: own)) rest
    | c :: rest =>
      if Arithmetic.isBlank c then (quotedWords fuel none rest).map (finished ++ ·)
      else if c = '\'' || c = '"' then
        let inside := rest.takeWhile fun d => d != c && d != '\n'
        match rest.drop inside.length with
        | d :: after => if d = c then quotedWords fuel (some (inside.reverse ++ own)) after else none
        | []         => none
      else quotedWords fuel (some (c :: own)) rest

/-- Some items in groups of some size. -/
def groupsOf {α : Type} (size : Nat) : (fuel : Nat) → List α → List (List α)
  | 0, _ | _, [] => []
  | fuel + 1, items => items.take size :: groupsOf size fuel (items.drop size)

/-- The status that the runs of commands end with: a bad one of their own, or that of a command that
could not be run. -/
def runAll (r : Runner) (a : Arguments) : List (List String) → (status : Nat) → Act Nat
  | [], status => return status
  | words :: rest, status => do
    if a.has 't' then complain (" ".intercalate words)
    match ← launch r words with
    | .error fault =>
      reportUnrun "xargs" (words.headD "") fault
    | .ok n =>
      if n = 255 then
        complain ("xargs: " ++ words.headD "" ++ ": exited with status 255; aborting")
        return 124
      else if 128 < n then
        complain ("xargs: " ++ words.headD "" ++ ": terminated by signal " ++ toString (n - 128))
        return 125
      else runAll r a rest (if n = 0 then status else 123)

/-- Runs a program with arguments that are read. -/
def xargs : Builtin := fun r args => xargsUsage.runInOrder args fun a => do
  let source ← match a.last? 'a' with
    | some name => readInput name
    | none      => readInput "-"
  match source with
  | .error reason =>
    xargsUsage.complain ("Cannot open input file " ++ quoted ((a.last? 'a').getD "") ++ ": " ++ reason)
    return 1
  | .ok text =>
    let delimiter := if a.has '0' then some "\x00" else (a.last? 'd').map fun s => (Format.unescaped s).1
    let items : Option (List String) := match delimiter, a.last? 'I' with
      | some d, _ =>
        let parts := text.splitOn d
        some (if parts.getLast? = some "" then parts.dropLast else parts)
      | none, some _ =>
        some (((linesOf text).map fun (line : String) =>
          String.ofList (line.toList.dropWhile Arithmetic.isBlank)).filter (· != ""))
      | none, none => quotedWords (text.length + 2) none text.toList
    match items with
    | none =>
      xargsUsage.complain "unmatched single quote; by default quotes are special to xargs unless you use the -0 option"
      return 1
    | some items =>
      let command := if a.rest.isEmpty then ["echo"] else a.rest
      let size := (((a.last? 'n').or (a.last? 'L')).bind String.toNat?).getD 5000
      let runs : List (List String) := match a.last? 'I' with
        | some mark => items.map fun item => command.map fun w => w.replace mark item
        | none =>
          if items.isEmpty then (if a.has 'r' then [] else [command])
          else (groupsOf (max 1 size) items.length items).map (command ++ ·)
      modifyProcess fun p => { p with descriptors := p.descriptors.filter (·.1 != 0) }
      let nothing ← addDescription ⟨.null, 0, false, true, false⟩
      lead 0 nothing
      runAll r a runs 0

end BoardConsole.Shell.Utility
