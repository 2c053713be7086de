import Std.Data.HashMap
import BoardConsole.Shell.Utility.Scan.Value

/-!
# Shell — Tables of a scanning program

A table holds values by keys. The order in which its keys are listed is that of the lists into which
they are sorted: one of two sets of lists goes by the numbers that keys are, the other by a digest of
their texts. A key that is looked for moves to the front of its list, and keys are entered into the
second set only once they are looked for as texts or listed. When the lists grow too long, their
number is doubled.
-/

namespace BoardConsole.Shell.Scan

/-- A key as it is looked for. -/
inductive Key where
  | number (n : Int)
  | text (s : String)

/-- The text of a key. -/
def Key.toText : Key → String
  | number n => toString n
  | text s   => s

/-- A table. -/
structure Table where
  values  : Std.HashMap String Value
  /-- How many keys there are in a row from one, where lists have not been needed yet. -/
  row     : Option Nat
  /-- Whether all keys are in the lists by texts. -/
  spelled : Bool
  numbers : Array (List Int)
  texts   : Array (List String)

namespace Table

/-- How many lists there are at first. -/
def firstLists : Nat := 64

/-- How long lists may be on average. -/
def greatestLength : Nat := 12

/-- A table without keys. -/
def empty : Table := ⟨∅, none, false, #[], #[]⟩

instance : Inhabited Table := ⟨empty⟩

/-- How many keys a table has. -/
def size (t : Table) : Nat := t.values.size

/-- The digest of a text, of which the last bits tell the list. -/
def digest (s : String) : UInt32 :=
  s.foldl (fun h c => (h ^^^ c.toNat.toUInt32) * 16777619) 2166136261

/-- The list of a text among some number of lists. -/
def placeOf (lists : Nat) (s : String) : Nat := (digest s).toNat % lists

/-- The list of a number among some number of lists. -/
def placeOfNumber (lists : Nat) (n : Int) : Nat := (n % lists).toNat

/-- Puts a text at the front of its list. -/
def pushText (t : Table) (s : String) : Table :=
  { t with texts := t.texts.modify (placeOf t.texts.size s) (s :: ·) }

/-- Puts a number at the front of its list. -/
def pushNumber (t : Table) (n : Int) : Table :=
  { t with numbers := t.numbers.modify (placeOfNumber t.numbers.size n) (n :: ·) }

/-- Some number of empty lists. -/
def withLists (t : Table) (lists : Nat) : Table :=
  { t with numbers := Array.replicate lists [], texts := Array.replicate lists [] }

/-- How many lists some number of keys in a row need. -/
def listsFor (count : Nat) : (fuel : Nat) → Nat → Nat
  | 0, lists => lists
  | fuel + 1, lists =>
    if lists * greatestLength < count then listsFor count fuel (2 * lists) else lists

/-- A table with lists in the place of a row of keys. -/
def unrolled (t : Table) : Table :=
  match t.row with
  | none   => t
  | some n =>
    let t := { t with row := none }.withLists (listsFor n n firstLists)
    (List.range n).foldl (fun t k => t.pushNumber (k + 1 : Nat)) t

/-- A table with all keys in the lists by texts. -/
def spelledOut (t : Table) : Table :=
  if t.spelled then t
  else
    let t := t.unrolled
    let t := if t.texts.isEmpty then t.withLists firstLists else t
    let all := t.numbers.toList.flatMap fun l => l.map fun n => (toString n : String)
    { all.foldl pushText t with spelled := true }

/-- Twice as many lists, with the keys in them in the same order. -/
def doubled (t : Table) : Table :=
  let lists := t.texts.size
  let split {α : Type} (place : α → Nat) (old : Array (List α)) : Array (List α) :=
    old.mapIdx (fun k l => l.filter fun a => place a = k) ++
      old.mapIdx (fun k l => l.filter fun a => place a = k + lists)
  { t with
    numbers := split (placeOfNumber (2 * lists)) t.numbers
    texts   := split (placeOf (2 * lists)) t.texts }

/-- A table with room for one more key. -/
def grown (t : Table) : Table :=
  if t.texts.size * greatestLength < t.values.size + 1 then t.doubled else t

/-- A table in which a text stands at the front of its list. -/
def textFirst (t : Table) (s : String) : Table :=
  { t with
    texts := t.texts.modify (placeOf t.texts.size s) fun l =>
      if l.head? = some s then l else s :: l.erase s }

/-- A table in which a number stands at the front of its list, if it is there. -/
def numberFirst (t : Table) (n : Int) : Table :=
  { t with
    numbers := t.numbers.modify (placeOfNumber t.numbers.size n) fun l =>
      if l.head? = some n then l else n :: l.erase n }

/-- Whether a number is in the lists by numbers. -/
def hasNumber (t : Table) (n : Int) : Bool :=
  (t.numbers.getD (placeOfNumber t.numbers.size n) []).contains n

/-- Looks for a key, and makes it where it is missing and this is wanted. -/
def touch (t : Table) (makes : Bool) (key : Key) : Table :=
  if t.values.isEmpty && !makes then t
  else
    match key with
    | .text s =>
      let t := t.spelledOut
      if t.values.contains s then t.textFirst s
      else if makes then
        let t := t.grown.pushText s
        { t with values := t.values.insert s .unset }
      else t
    | .number n =>
      let s := toString n
      if t.row.isSome && (t.values.contains s || !makes) then t
      else
        let t := if t.values.isEmpty && !t.spelled then t.withLists firstLists else t.unrolled
        if t.hasNumber n then t.numberFirst n
        else if t.spelled then
          if t.values.contains s then (t.textFirst s).pushNumber n
          else if makes then
            let t := (t.grown.pushText s).pushNumber n
            { t with values := t.values.insert s .unset }
          else t
        else if makes then
          let t := t.grown.pushNumber n
          { t with values := t.values.insert s .unset }
        else t

/-- The value of a key. -/
def value? (t : Table) (key : Key) : Option Value := t.values[key.toText]?

/-- The table with a value put at a key that is there. -/
def put (t : Table) (key : Key) (v : Value) : Table :=
  { t with values := t.values.insert key.toText v }

/-- The table without a key. -/
def erase (t : Table) (key : Key) : Table :=
  let s := key.toText
  let t := t.touch false key
  if !t.values.contains s then t
  else
    let t := t.unrolled
    let values := t.values.erase s
    if values.isEmpty then empty
    else
      let number? : Option Int := match key with
        | .number n => some n
        | .text s   => s.toInt?
      let numbers := match number? with
        | some n => t.numbers.modify (placeOfNumber t.numbers.size n) (·.erase n)
        | none   => t.numbers
      { t with values, numbers, texts := t.texts.modify (placeOf t.texts.size s) (·.erase s) }

/-- The table of some values in a row. -/
def ofList (values : List Value) : Table :=
  if values.isEmpty then empty
  else
    let held := values.zipIdx.foldl (fun m (v, k) => m.insert (toString (k + 1)) v)
      (∅ : Std.HashMap String Value)
    { empty with values := held, row := some values.length }

/-- The keys in order, and the table once they have been listed. -/
def keys (t : Table) : List String × Table :=
  if t.values.isEmpty then ([], t)
  else
    let t := t.spelledOut
    (t.texts.toList.flatten, t)

end Table

end BoardConsole.Shell.Scan
