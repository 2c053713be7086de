/-!
# Toml — Values and tables

A document is a table of values, some of them tables again. A table remembers how it came to be,
since that decides which later parts of the document may still add to it: a header may take over a
table that headers of its subtables implied, dotted keys may only add to tables that dotted keys
made, and nothing adds to a table written in braces. `assign`, `open` and `append` add to a document
and answer nothing where the rules forbid it.
-/

namespace BoardConsole.Toml

/-- How a table came to be. -/
inductive Origin where
  /-- Written in braces, or the document itself. -/
  | closed
  /-- Opened by a header of its own. -/
  | header
  /-- Implied by the header of a table inside it. -/
  | implied
  /-- Made by dotted keys. -/
  | dotted
deriving DecidableEq, Repr

/-- A value of a document. -/
inductive Value where
  | string (text : String)
  | integer (n : Int)
  /-- A number with a fraction or an exponent, as it is written. -/
  | float (text : String)
  | boolean (b : Bool)
  /-- A date, a time, or both, as it is written. -/
  | dateTime (text : String)
  | array (items : List Value)
  | table (origin : Origin) (entries : List (String × Value))
  /-- The tables that headers in double brackets opened. -/
  | tables (items : List (List (String × Value)))

/-- The entries of a table, in the order they were made. -/
abbrev Entries := List (String × Value)

namespace Entries

/-- Puts a value in the place of the one of that key. -/
def replace (key : String) (v : Value) : Entries → Entries
  | []      => []
  | e :: es => if e.1 = key then (key, v) :: es else e :: replace key v es

/-- Changes the entries of a table that a path leads to from another table. Tables that are missing
on the way are made. `edit` is told how the last table came to be. -/
def alter (isDotted : Bool) (edit : Origin → Entries → Option Entries) :
    (path : List String) → Origin → Entries → Option Entries
  | [], origin, es => edit origin es
  | key :: path, _, es =>
    match es.lookup key with
    | none =>
      let origin := if isDotted then .dotted else .implied
      (alter isDotted edit path origin []).map fun inner => es ++ [(key, .table origin inner)]
    | some (.table origin inner) =>
      if origin = .closed ∨ (isDotted ∧ origin = .header) then none
      else (alter isDotted edit path origin inner).map fun inner =>
        es.replace key (.table origin inner)
    | some (.tables items) =>
      match items.getLast? with
      | none      => none
      | some last => (alter isDotted edit path .header last).map fun last =>
        es.replace key (.tables (items.dropLast ++ [last]))
    | some _ => none

/-- Gives a key a value, at the end of a path of dotted keys; each key once. -/
def assign (path : List String) (key : String) (v : Value) (origin : Origin) (es : Entries) :
    Option Entries :=
  es.alter true (fun origin inner =>
    if (path.isEmpty ∨ origin = .dotted) ∧ (inner.lookup key).isNone then some (inner ++ [(key, v)])
    else none) path origin

/-- Opens the table of a header. One that was implied before takes the place of a new one: the last. -/
def openTable (path : List String) (key : String) (es : Entries) : Option Entries :=
  es.alter false (fun _ outer =>
    match outer.lookup key with
    | none                         => some (outer ++ [(key, .table .header [])])
    | some (.table .implied inner) => some (outer.filter (·.1 ≠ key) ++ [(key, .table .header inner)])
    | some _                       => none) path .closed

/-- Opens one more of the tables of a header in double brackets. -/
def appendTable (path : List String) (key : String) (es : Entries) : Option Entries :=
  es.alter false (fun _ outer =>
    match outer.lookup key with
    | none                 => some (outer ++ [(key, .tables [[]])])
    | some (.tables items) => some (outer.replace key (.tables (items ++ [[]])))
    | some _               => none) path .closed

/-- Gives a key a value inside the table opened last. -/
def assignUnder (header path : List String) (key : String) (v : Value) (es : Entries) :
    Option Entries :=
  es.alter false (fun origin inner => inner.assign path key v origin) header .closed

end Entries

end BoardConsole.Toml
