import BoardConsole.Script.Token

/-!
# Errors

Everything that can stop a console line, as causes. `message` gives the words for each: a fault of
the host reads the same whether a host function or a console line reports it.
-/

namespace BoardConsole

/-- A failure of the host's services. -/
inductive HostError where
  /-- An operation of the operating system failed. -/
  | io (text : String)
  /-- An address at or past the end of the storage. -/
  | addressOutOfRange (address size : Nat)
  /-- A pin that the bank does not have. -/
  | pinOutOfRange (pin count : UInt32)
  /-- No room for an entry of `needed` bytes. -/
  | storageFull (needed available : Nat)
  /-- A thread could not be started. -/
  | threadSpawn (name reason : String)
deriving DecidableEq, Repr

/-- The words for a failure. -/
def HostError.message : HostError → String
  | io text                       => s!"I/O error: {text}"
  | addressOutOfRange a size      => s!"storage address {a} out of range (size {size})"
  | pinOutOfRange pin count       => s!"pin {pin.toNat} out of range (pin count {count.toNat})"
  | storageFull needed available  => s!"storage full: {needed} bytes needed, {available} available"
  | threadSpawn name reason       => s!"failed to spawn thread {name}: {reason}"

/-- What is wrong with the text of a line. -/
inductive SyntaxFault where
  | unterminatedString
  | missingBrace
  /-- Digits that are no number of 32 bits. -/
  | badNumber (text : String)
  | strayChar (c : Char)
  /-- A name is due, and `found` stands there, or the line ends. -/
  | nameExpected (found : Option Token)
  /-- A token that cannot stand where it does. -/
  | unexpected (found : Token)
  | bodyExpected
  | closeExpected
  | expressionExpected
  /-- A stored macro was given arguments. -/
  | noArguments (name : String)
  /-- A keyword cannot name a macro. -/
  | reserved (name : String)
  | nulInBody
deriving DecidableEq, Repr

/-- The words for a fault. -/
def SyntaxFault.message : SyntaxFault → String
  | unterminatedString       => "unterminated string"
  | missingBrace             => "missing '\x7d'"
  | badNumber text           => s!"bad number '{text}'"
  | strayChar c              => s!"unexpected '{c}'"
  | nameExpected (some tok)  => s!"expected a name, found {tok.shown}"
  | nameExpected none        => "expected a name"
  | unexpected tok           => s!"unexpected {tok.shown}"
  | bodyExpected             => "expected \x7bbody\x7d"
  | closeExpected            => "expected ')'"
  | expressionExpected       => "expression expected"
  | noArguments name         => s!"macro '{name}' takes no arguments"
  | reserved name            => s!"'{name}' is reserved"
  | nulInBody                => "body contains a NUL byte"

/-- What stops a console line. -/
inductive CommandError where
  /-- The line is malformed. -/
  | malformed (fault : SyntaxFault)
  /-- The name is neither a function nor a stored macro. -/
  | unknownName (name : String)
  /-- Macros called macros more than `limit` deep. -/
  | recursionLimit (limit : Nat)
  /-- Every one of the task slots is taken. -/
  | tooManyTasks (slots : Nat)
  /-- A service of the host failed. -/
  | host (error : HostError)
deriving DecidableEq, Repr

/-- The words for an error. -/
def CommandError.message : CommandError → String
  | malformed fault       => s!"syntax: {fault.message}"
  | unknownName name      => s!"unknown name '{name}'"
  | recursionLimit limit  => s!"recursion deeper than {limit}"
  | tooManyTasks slots    => s!"too many tasks (max {slots})"
  | host error            => error.message

end BoardConsole
