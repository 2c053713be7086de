import BoardConsole.Functions.Arg
import BoardConsole.Host

/-!
# Functions — The function table

The functions that scripts call by name. A function sees its arguments and the host, answers a
number or a failure of the host, and may ask for the listing of the stored macros. A table holds
each name once, in the order of code points.
-/

namespace BoardConsole

/-- What a function sees of its call. -/
structure Invocation where
  args    : List Arg
  /-- Prints the state of the interpreter that makes the call. -/
  listing : Host → Host

/-- An action on the host that can fail; what it did before failing stays done. -/
abbrev HostAction := EStateM HostError Host

/-- A function that scripts can call. -/
abbrev Function := Invocation → HostAction Int32

namespace Invocation

def num? (inv : Invocation) (n : Nat) : Option Int32 := Arg.num? inv.args n

def text? (inv : Invocation) (n : Nat) : Option String := Arg.text? inv.args n

def numOrZero (inv : Invocation) (n : Nat) : Int32 := Arg.numOrZero inv.args n

end Invocation

/-- Functions by name. -/
structure FunctionTable where
  entries : List (String × Function)

namespace FunctionTable

def empty : FunctionTable := ⟨[]⟩

/-- The function of a name. -/
def lookup? (t : FunctionTable) (name : String) : Option Function := t.entries.lookup name

/-- The names, in order. -/
def names (t : FunctionTable) : List String := t.entries.map (·.1)

/-- Puts an entry at its place. -/
def place (name : String) (f : Function) : List (String × Function) → List (String × Function)
  | []      => [(name, f)]
  | e :: es =>
    if name = e.1 then (name, f) :: es
    else if name < e.1 then (name, f) :: e :: es
    else e :: place name f es

/-- Registers a function in place of the one of the same name, and answers that one. -/
def register (t : FunctionTable) (name : String) (f : Function) :
    Option Function × FunctionTable :=
  (t.lookup? name, ⟨place name f t.entries⟩)

/-- Registers several functions. -/
def registerAll (t : FunctionTable) (fs : List (String × Function)) : FunctionTable :=
  fs.foldl (fun t e => (t.register e.1 e.2).2) t

end FunctionTable

end BoardConsole
