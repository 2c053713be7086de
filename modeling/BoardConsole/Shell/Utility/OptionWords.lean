import BoardConsole.Shell.Utility.Text

/-!
# Shell — Options for scripts

`getopt` reads arguments as an option text and a list of long names describe them, and prints them so
that a shell can take them apart again.
-/

namespace BoardConsole.Shell.Utility

open Act

/-- What an option takes. -/
inductive OptionNeed where
  | nothing
  | argument
  /-- An argument that may be left out. -/
  | addition
deriving DecidableEq

/-- The options that arguments may have. -/
structure OptionTable where
  letters : List (Char × OptionNeed)
  names   : List (String × OptionNeed)
  /-- Whether the first operand ends the options, or operands stay in their place. -/
  stops   : Bool
  inPlace : Bool
  /-- Whether long names may follow a single dash. -/
  single  : Bool

/-- The options of a text of letters. -/
def optionLetters : List Char → List (Char × OptionNeed)
  | c :: ':' :: ':' :: rest => (c, .addition) :: optionLetters rest
  | c :: ':' :: rest        => (c, .argument) :: optionLetters rest
  | c :: rest               => (c, .nothing) :: optionLetters rest
  | []                      => []

/-- The options of a list of names. -/
def optionNames (list : String) : List (String × OptionNeed) :=
  let words := (list.split fun c => c = ',' || c = ' ' || c = '\t' || c = '\n').toList.map (·.toString)
  (words.filter (· != "")).map fun w =>
    if w.endsWith "::" then ((w.dropEnd 2).toString, .addition)
    else if w.endsWith ":" then ((w.dropEnd 1).toString, .argument)
    else (w, .nothing)

/-- What has been read: the options and operands in their places, the other operands, and what is wrong,
each the last first. The argument of an option is there where it may have one. -/
structure OptionReading where
  options  : List (String × Option String)
  operands : List String
  faults   : List String

/-- What a long name means. -/
inductive NameMeaning where
  | none
  | several (names : List String)
  | one (name : String) (need : OptionNeed)

/-- The option that a name means: the one that it is, or the only one that it begins. -/
def OptionTable.meaning (t : OptionTable) (name : String) : NameMeaning :=
  match t.names.find? (·.1 = name) with
  | some (full, need) => .one full need
  | none =>
    match t.names.filter (·.1.startsWith name) with
    | []             => .none
    | [(full, need)] => .one full need
    | found@((full, need) :: more) =>
      if more.all (·.2 = need) && more.all (·.1 = full) then .one full need
      else .several (found.map (·.1))

/-- The reading with one more option. -/
def OptionReading.add (r : OptionReading) (name : String) (value : Option String) : OptionReading :=
  { r with options := (name, value) :: r.options }

/-- The reading with one more fault. -/
def OptionReading.fail (r : OptionReading) (message : String) : OptionReading :=
  { r with faults := message :: r.faults }

/-- Reads the letters behind a dash; answers whether the next argument belongs to the last of them. -/
def OptionTable.readCluster (t : OptionTable) (next : Option String) :
    OptionReading → List Char → OptionReading × Bool
  | r, [] => (r, false)
  | r, c :: rest =>
    let name := String.ofList ['-', c]
    match t.letters.lookup c with
    | none => t.readCluster next (r.fail ("invalid option -- '" ++ String.ofList [c] ++ "'")) rest
    | some .nothing => t.readCluster next (r.add name none) rest
    | some .addition => (r.add name (some (String.ofList rest)), false)
    | some .argument =>
      if !rest.isEmpty then (r.add name (some (String.ofList rest)), false)
      else
        match next with
        | some value => (r.add name (some value), true)
        | none =>
          (r.fail ("option requires an argument -- '" ++ String.ofList [c] ++ "'"), false)

/-- Reads a long option; answers whether the next argument belongs to it, or nothing where the name means
nothing. -/
def OptionTable.readName (t : OptionTable) (next : Option String) (dashes text : String)
    (r : OptionReading) : Option (OptionReading × Bool) :=
  let name := String.ofList (text.toList.takeWhile (· != '='))
  let value := if name.length < text.length then some (text.drop (name.length + 1)).toString else none
  match t.meaning name with
  | .none => none
  | .several names =>
    some (r.fail ("option '" ++ dashes ++ text ++ "' is ambiguous; possibilities:" ++
      String.join (names.map fun n => " '" ++ dashes ++ n ++ "'")), false)
  | .one full need =>
    let shown := "--" ++ full
    match need, value, next with
    | .nothing, none, _   => some (r.add shown none, false)
    | .nothing, some _, _ =>
      some (r.fail ("option '" ++ dashes ++ full ++ "' doesn't allow an argument"), false)
    | .addition, _, _           => some (r.add shown (some (value.getD "")), false)
    | .argument, some v, _      => some (r.add shown (some v), false)
    | .argument, none, some v   => some (r.add shown (some v), true)
    | .argument, none, none     =>
      some (r.fail ("option '" ++ dashes ++ full ++ "' requires an argument"), false)

/-- Reads arguments. -/
def OptionTable.read (t : OptionTable) : (fuel : Nat) → OptionReading → List String → OptionReading
  | 0, r, _ | _, r, [] => r
  | fuel + 1, r, word :: rest =>
    let go (found : OptionReading × Bool) : OptionReading :=
      t.read fuel found.1 (if found.2 then rest.drop 1 else rest)
    if word = "--" then { r with operands := rest.reverse ++ r.operands }
    else
      match word.toList with
      | '-' :: '-' :: text =>
        match t.readName rest.head? "--" (String.ofList text) r with
        | some found => go found
        | none       => go (r.fail ("unrecognized option '" ++ word ++ "'"), false)
      | '-' :: c :: letters =>
        let known := (t.letters.lookup c).isSome
        let asName := if t.single && (!letters.isEmpty || !known) then
            t.readName rest.head? "-" (String.ofList (c :: letters)) r
          else none
        match asName with
        | some found => go found
        | none =>
          if t.single && !known then go (r.fail ("unrecognized option '" ++ word ++ "'"), false)
          else go (t.readCluster rest.head? r (c :: letters))
      | _ =>
        if t.stops then { r with operands := (word :: rest).reverse ++ r.operands }
        else if t.inPlace then go ({ r with options := ("", some word) :: r.options }, false)
        else go ({ r with operands := word :: r.operands }, false)

/-! ### Printing -/

/-- The shells for which words are put into quotes. -/
inductive WordStyle where
  | plain
  | bourne
  | csh
deriving DecidableEq

/-- A word as a shell reads it again. -/
def WordStyle.shown (style : WordStyle) (word : String) : String :=
  let inner (c : Char) : String :=
    match style, c with
    | _, '\''    => "'\\''"
    | .csh, '\\' => "\\\\"
    | .csh, '!'  => "'\\!'"
    | .csh, '\n' => "\\n"
    | .csh, c    => if Arithmetic.isBlank c then "'\\" ++ String.ofList [c] ++ "'" else String.ofList [c]
    | _, c       => String.ofList [c]
  if style = .plain then word else "'" ++ String.join (word.toList.map inner) ++ "'"

/-- What was read, in one line. -/
def OptionReading.shown (r : OptionReading) (style : WordStyle) : String :=
  let options := r.options.reverse.map fun (name, value) =>
    (if name = "" then "" else " " ++ name) ++
      (match value with
        | some v => " " ++ style.shown v
        | none   => "")
  String.join options ++ " --" ++ String.join (r.operands.reverse.map fun w => " " ++ style.shown w) ++
    "\n"

/-! ### The utility -/

def getoptUsage : Usage :=
  { program := "getopt", letters := "ao:l:n:qQs:TuhV", misuse := 2
    names := [("options", 'o'), ("longoptions", 'l'), ("quiet", 'q'), ("quiet-output", 'Q'),
      ("shell", 's'), ("test", 'T'), ("unquoted", 'u'), ("alternative", 'a'), ("name", 'n')] }

/-- Prints arguments as options and operands. -/
def getopt : Builtin := fun _ args => do
  let old := args.head?.any fun a => !a.startsWith "-"
  if args.isEmpty then return ← getoptUsage.refuse "missing optstring argument"
  getoptUsage.use (if old then .ok ⟨[], args⟩ else getoptUsage.read true args) fun a => do
    if a.has 'T' then return 4
    let style? : Option WordStyle := match a.last? 's' with
      | none   => some .bourne
      | some s =>
        if s = "sh" || s = "bash" then some .bourne
        else if s = "csh" || s = "tcsh" then some .csh else none
    match style?, a.last? 'o', a.rest with
    | none, _, _       => getoptUsage.refuse "unknown shell after -s or --shell argument"
    | _, none, []      => getoptUsage.refuse "missing optstring argument"
    | some style, given, rest =>
      let (text, words) := match given, rest with
        | some text, words     => (text, words)
        | none, text :: words  => (text, words)
        | none, []             => ("", [])
      let cs := text.toList
      let sign := cs.head?.filter fun c => c = '+' || c = '-'
      let table : OptionTable :=
        { letters := optionLetters (if sign.isSome then cs.drop 1 else cs)
          names   := (a.options.filter (·.1 = 'l')).flatMap fun o => optionNames o.2
          stops   := sign = some '+', inPlace := sign = some '-', single := a.has 'a' }
      let r := table.read (words.length + 1) ⟨[], [], []⟩ words
      if !a.has 'q' then
        for fault in r.faults.reverse do
          complain ((a.last? 'n').getD "getopt" ++ ": " ++ fault)
      let style := if old || a.has 'u' then .plain else style
      let n ← if a.has 'Q' then pure 0 else printChecked "getopt" (r.shown style)
      return if r.faults.isEmpty then n else 1

end BoardConsole.Shell.Utility
