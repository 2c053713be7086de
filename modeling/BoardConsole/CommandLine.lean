import BoardConsole.Time.Clock

/-!
# The command line

What the program is asked to do by its arguments. Each option is given once at most, with its value
after it, after an equals sign, or, for a short option, right behind the letter; arguments are
looked at from left to right, and the first that asks for the version or the help, or that cannot
stand where it does, decides.
-/

namespace BoardConsole

/-- What a run is set up with. -/
structure Options where
  /-- The configuration file. -/
  config   : Option String
  logLevel : Option String
  clock    : Option ClockSource
  /-- The file whose lines are run first. -/
  load     : Option String
deriving DecidableEq, Repr

/-- What the arguments ask for. -/
inductive Ask where
  | run (options : Options)
  | version
  | help
  /-- The arguments cannot be understood. -/
  | misuse
deriving DecidableEq, Repr

namespace CommandLine

/-- An option that takes a value. -/
inductive Key where
  | config
  | logLevel
  | clock
  | load
deriving DecidableEq, Repr

/-- What a name or a letter stands for. -/
inductive Meaning where
  | key (key : Key)
  | version
  | help
deriving DecidableEq, Repr

/-- The meaning of a long option. -/
def long? (name : String) : Option Meaning :=
  if name = "config" then some (.key .config)
  else if name = "log-level" then some (.key .logLevel)
  else if name = "clock" then some (.key .clock)
  else if name = "load" then some (.key .load)
  else if name = "version" then some .version
  else if name = "help" then some .help
  else none

/-- The meaning of a short option. -/
def short? (c : Char) : Option Meaning :=
  if c = 'c' then some (.key .config)
  else if c = 'l' then some (.key .logLevel)
  else if c = 'V' then some .version
  else if c = 'h' then some .help
  else none

/-- A file name, which is not empty. -/
def fileName? (value : String) : Option String := if value = "" then none else some value

/-- Gives an option its value; nothing where it has one already or cannot have this one. -/
def assign (key : Key) (value : String) (o : Options) : Option Options :=
  match key with
  | .config =>
    if o.config.isSome then none
    else (fileName? value).map fun name => { o with config := some name }
  | .logLevel => if o.logLevel.isSome then none else some { o with logLevel := some value }
  | .clock =>
    if o.clock.isSome then none
    else (ClockSource.ofName? value).map fun source => { o with clock := some source }
  | .load =>
    if o.load.isSome then none
    else (fileName? value).map fun name => { o with load := some name }

/-- A value behind an equals sign, if there is one. -/
def afterEquals : List Char → Option String
  | '=' :: cs => some (String.ofList cs)
  | _         => none

/-- The letters of an argument with one dash: the options taken so far and the option whose value is
still to come, or what the letters ask for. -/
def letters (o : Options) : List Char → Except Ask (Options × Option Key)
  | []      => .ok (o, none)
  | c :: cs =>
    match short? c with
    | none          => .error .misuse
    | some .version => .error .version
    | some .help    => .error .help
    | some (.key key) =>
      if cs.isEmpty then .ok (o, some key)
      else
        match assign key ((afterEquals cs).getD (String.ofList cs)) o with
        | some o => .ok (o, none)
        | none   => .error .misuse

/-- The name of an argument with two dashes, and the value behind an equals sign. -/
def word (o : Options) (cs : List Char) : Except Ask (Options × Option Key) :=
  let name := String.ofList (cs.takeWhile (· != '='))
  let value := afterEquals (cs.dropWhile (· != '='))
  match long? name, value with
  | some (.key key), none => .ok (o, some key)
  | some (.key key), some value =>
    match assign key value o with
    | some o => .ok (o, none)
    | none   => .error .misuse
  | some .version, none => .error .version
  | some .help, none    => .error .help
  | _, _                => .error .misuse

/-- Looks at the arguments; `pending` is an option whose value is to come. -/
def parseFrom (o : Options) : (pending : Option Key) → List String → Ask
  | none, []   => .run o
  | some _, [] => .misuse
  | pending, arg :: args =>
    match pending, arg.toList with
    | none, ['-', '-'] => if args.isEmpty then .run o else .misuse
    | none, '-' :: '-' :: cs =>
      match word o cs with
      | .ok (o, pending) => parseFrom o pending args
      | .error ask       => ask
    | none, '-' :: c :: cs =>
      match letters o (c :: cs) with
      | .ok (o, pending) => parseFrom o pending args
      | .error ask       => ask
    | none, _ => .misuse
    | some _, '-' :: _ :: _ => .misuse
    | some key, _ =>
      match assign key arg o with
      | some o => parseFrom o none args
      | none   => .misuse

/-- What the arguments ask for. -/
def parse (args : List String) : Ask := parseFrom ⟨none, none, none, none⟩ none args

/-- The words for the version. -/
def versionText : String := "script-host 0.1.0\n"

/-- The words for the help. -/
def helpText : String :=
  "Run the script interpreter on stdin with background tasks\n\n" ++
  "Usage: script-host [OPTIONS]\n\n" ++
  "Options:\n" ++
  "  -c, --config <FILE>          Path to a configuration file (TOML)\n" ++
  "  -l, --log-level <LOG_LEVEL>  Log level (trace, debug, info, warn, error) [default: info]\n" ++
  "      --clock <CLOCK>          Clock source (overrides config file) [possible values: " ++
  "monotonic, wall]\n" ++
  "      --load <FILE>            Dispatch every line of FILE before reading stdin\n" ++
  "  -h, --help                   Print help\n" ++
  "  -V, --version                Print version\n"

end CommandLine

end BoardConsole
