import BoardConsole.Shell.Utility.Cut

/-!
# Shell — Sorted inputs side by side

`comm` and `join` go through two sorted inputs at once: what is less in one of them has nothing in the
other that it belongs to. That an input is not sorted is noticed once such a line has been seen.
`tsort` puts items in an order in which each pair of its input is.
-/

namespace BoardConsole.Shell.Utility

open Act

/-! ### The order of inputs -/

/-- Whether the order of inputs is looked at. -/
inductive OrderCheck where
  | always
  | whenUnpaired
  | never
deriving DecidableEq

/-- How the order is looked at, by the last option that says so. -/
def OrderCheck.ofOptions (always never : Char) (a : Arguments) : OrderCheck :=
  match (a.options.filter fun o => o.1 = always || o.1 = never).getLast? with
  | some (letter, _) => if letter = always then .always else .never
  | none             => .whenUnpaired

/-! ### Lines in common -/

def commUsage : Usage :=
  { program := "comm", letters := "123zκνω:τ", misuse := 1
    names := [("zero-terminated", 'z'), ("check-order", 'κ'), ("nocheck-order", 'ν'),
      ("output-delimiter", 'ω'), ("total", 'τ')] }

/-- Where a line is: in the first input, in the second, or in both. -/
inductive Side where
  | first
  | second
  | both
deriving DecidableEq

/-- A comparison of two inputs. -/
structure Comparison where
  /-- The lines so far, last first. -/
  found    : List (Side × String)
  unpaired : Bool
  /-- The inputs that are not sorted, last first. -/
  disorder : List Nat

/-- Looks at the order of a line and the one behind it. -/
def Comparison.check (check : OrderCheck) (c : Comparison) (input : Nat) (line : String)
    (next : Option String) : Comparison :=
  let looks : Bool := (check = .always && c.disorder.isEmpty) || (check = .whenUnpaired && c.unpaired)
  if looks && next.any (· < line) && !c.disorder.contains input then
    { c with disorder := input :: c.disorder }
  else c

/-- Compares two inputs line by line, up to a fault that ends it. The last two lines of an input are
looked at again at its end. -/
def Comparison.go (check : OrderCheck) : (fuel : Nat) → Comparison →
    (before before' : Option String) → List String → List String → Comparison
  | 0, c, _, _, _, _ => c
  | fuel + 1, c, before, before', left, right =>
    let ends (c : Comparison) (input : Nat) (earlier : Option String) (line : String)
        (rest : List String) : Comparison :=
      match rest, earlier with
      | [], some e => c.check check input e (some line)
      | _, _       => c.check check input line rest.head?
    if check = .always && !c.disorder.isEmpty then c
    else
      match left, right with
      | [], [] => c
      | l :: ls, [] =>
        let c := { c with found := (.first, l) :: c.found, unpaired := true }
        Comparison.go check fuel (ends c 1 before l ls) (some l) before' ls []
      | [], r :: rs =>
        let c := { c with found := (.second, r) :: c.found, unpaired := true }
        Comparison.go check fuel (ends c 2 before' r rs) before (some r) [] rs
      | l :: ls, r :: rs =>
        if l = r then
          let c := { c with found := (.both, r) :: c.found }
          let c := ends (ends c 1 before l ls) 2 before' r rs
          Comparison.go check fuel c (some l) (some r) ls rs
        else if l < r then
          let c := { c with found := (.first, l) :: c.found, unpaired := true }
          Comparison.go check fuel (ends c 1 before l ls) (some l) before' ls (r :: rs)
        else
          let c := { c with found := (.second, r) :: c.found, unpaired := true }
          Comparison.go check fuel (ends c 2 before' r rs) before (some r) (l :: ls) rs

/-- The texts of two inputs, or a status. -/
def readTwo (u : Usage) (a : Arguments) : Act (Except Nat (String × String)) := do
  match a.rest with
  | []     => return .error (← u.refuse "missing operand")
  | [only] => return .error (← u.refuse ("missing operand after " ++ cited only))
  | [first, second] =>
    match ← readInput first, ← readInput second with
    | .error reason, _ =>
      u.complain (shownName first ++ ": " ++ reason)
      return .error 1
    | _, .error reason =>
      u.complain (shownName second ++ ": " ++ reason)
      return .error 1
    | .ok left, .ok right => return .ok (left, right)
  | _ :: _ :: extra :: _ => return .error (← u.refuse ("extra operand " ++ cited extra))

/-- Compares sorted inputs line by line. -/
def comm : Builtin := fun _ args => commUsage.run args fun a => do
  match ← readTwo commUsage a with
  | .error status => return status
  | .ok (first, second) =>
    let ending := lineEnd a
    let left := linesUpTo ending first
    let right := linesUpTo ending second
    let check := OrderCheck.ofOptions 'κ' 'ν' a
    let c := Comparison.go check (left.length + right.length + 1) ⟨[], false, []⟩ none none left right
    let separator := match a.last? 'ω' with
      | none    => "\t"
      | some "" => "\x00"
      | some s  => s
    let shows (letter : Char) : Bool := !a.has letter
    let indent (letter : Char) : String := if shows letter then separator else ""
    let row : Side × String → Option String
      | (.first, s)  => if shows '1' then some s else none
      | (.second, s) => if shows '2' then some (indent '1' ++ s) else none
      | (.both, s)   => if shows '3' then some (indent '1' ++ indent '2' ++ s) else none
    let rows := c.found.reverse.filterMap row
    let count (side : Side) : String := toString (c.found.filter (·.1 = side)).length
    let total := if a.has 'τ' then
      [separator.intercalate [count .first, count .second, count .both, "total"]] else []
    for input in c.disorder.reverse do
      commUsage.complain ("file " ++ toString input ++ " is not in sorted order")
    let broken : Bool := check = .always && !c.disorder.isEmpty
    let status ← finish "comm" (joinLines ending (if broken then rows else rows ++ total))
      (!c.disorder.isEmpty)
    if !c.disorder.isEmpty && !broken then commUsage.complain "input is not in sorted order"
    return status

/-! ### Joining -/

def joinUsage : Usage :=
  { program := "join", letters := "a:e:i1:2:j:o:t:v:zηκν", misuse := 1
    names := [("ignore-case", 'i'), ("check-order", 'κ'), ("nocheck-order", 'ν'),
      ("zero-terminated", 'z'), ("header", 'η')] }

/-- A line of an input that is joined. -/
structure Row where
  line   : String
  fields : Array String
  number : Nat

/-- The fields of a line between blanks. -/
def blankFields : (fuel : Nat) → List Char → List String
  | 0, _ => []
  | fuel + 1, cs =>
    let blank (c : Char) : Bool := c = ' ' || c = '\t' || c = '\n'
    let cs := cs.dropWhile blank
    let field := cs.takeWhile (!blank ·)
    if cs.isEmpty then []
    else
      let rest := cs.drop field.length
      -- A blank at the end of a line has an empty field behind it.
      if !rest.isEmpty && rest.all blank then [String.ofList field, ""]
      else String.ofList field :: blankFields fuel rest

/-- The fields of a line: between some character, or between blanks. -/
def fieldsOf (separator : Option String) (line : String) : List String :=
  match separator with
  | some "" => [line]
  | some s  => if line = "" then [] else line.splitOn s
  | none    => blankFields (line.length + 1) line.toList

/-- What a joined line is made of. -/
inductive OutputField where
  | key
  | field (input n : Nat)

/-- How inputs are joined. -/
structure Joining where
  ignoresCase : Bool
  separator   : Option String
  keys        : Nat × Nat
  /-- What is shown of lines that belong to none. -/
  unpaired    : Bool × Bool
  paired      : Bool
  filler      : String
  layout      : Option (List OutputField)
  /-- The numbers of other fields, where they are fixed. -/
  counts      : Option (Nat × Nat)
  check       : OrderCheck

/-- The field of a line that it is joined by. -/
def Joining.keyOf (j : Joining) (input : Nat) (row : Row) : String :=
  let s := row.fields.getD (if input = 1 then j.keys.1 else j.keys.2) ""
  if j.ignoresCase then s.map Char.toUpper else s

/-- A field of a line as it is shown; one that is empty or missing has a filler. -/
def Joining.shown (j : Joining) (row : Option Row) (n : Nat) : String :=
  let s := (row.bind (·.fields[n]?)).getD ""
  if s = "" then j.filler else s

/-- The fields of a line but the one that it is joined by. -/
def Joining.others (j : Joining) (row : Option Row) (key : Nat) (count : Option Nat) : List String :=
  let count := count.getD ((row.map (·.fields.size)).getD 0)
  ((List.range count).filter (· != key)).map fun n => j.shown row n

/-- A joined line. -/
def Joining.write (j : Joining) (first second : Option Row) : String :=
  let key := match first with
    | some _ => j.shown first j.keys.1
    | none   => j.shown second j.keys.2
  let fields := match j.layout with
    | none =>
      key :: j.others first j.keys.1 (j.counts.map (·.1)) ++
        j.others second j.keys.2 (j.counts.map (·.2))
    | some layout => layout.map fun
      | .key           => key
      | .field input n => j.shown (if input = 1 then first else second) n
  (j.separator.map fun s => if s = "" then "\n" else s).getD " " |>.intercalate fields

/-- What is known while inputs are joined. -/
structure JoinState where
  /-- The lines so far, last first. -/
  out      : List String
  unpaired : Bool
  /-- The lines that are not in order, each with the number of its input, last first. -/
  disorder : List (Nat × Row)

/-- Looks at the order of a line and the one behind it. -/
def Joining.look (j : Joining) (input : Nat) (s : JoinState) (line : Row) (next : Option Row) :
    JoinState :=
  match next with
  | none => s
  | some next =>
    let looks : Bool := j.check = .always || (j.check = .whenUnpaired && s.unpaired)
    if looks && !s.disorder.any (·.1 = input) && j.keyOf input next < j.keyOf input line then
      { s with disorder := (input, next) :: s.disorder }
    else s

/-- Looks at the order of a line and of all behind it up to one that is no longer equal. -/
def Joining.lookAll (j : Joining) (input : Nat) (s : JoinState) (rows : List Row)
    (after : Option Row) : JoinState :=
  let next := rows.drop 1 |>.map some
  (rows.zip (next ++ [after])).foldl (fun s (row, n) => j.look input s row n) s

/-- Goes through what is left of one input. -/
def Joining.tail (j : Joining) (input : Nat) (s : JoinState) (rows : List Row) (othersLeft : Bool) :
    JoinState :=
  let shows := if input = 1 then j.unpaired.1 else j.unpaired.2
  match rows with
  | [] => s
  | first :: rest =>
    let write (row : Row) : String :=
      if input = 1 then j.write (some row) none else j.write none (some row)
    let add (s : JoinState) (row : Row) : JoinState :=
      if shows then { s with out := write row :: s.out } else s
    let s := add s first
    let s := if othersLeft then { s with unpaired := true } else s
    ((rest.zip rows).foldl (fun s (row, before) => add (j.look input s before (some row)) row) s)

/-- Joins two inputs. -/
def Joining.go (j : Joining) : (fuel : Nat) → JoinState → List Row → List Row → JoinState
  | 0, s, _, _ => s
  | fuel + 1, s, left, right =>
    if j.check = .always && !s.disorder.isEmpty then s
    else
      match left, right with
      | l :: ls, r :: rs =>
        let a := j.keyOf 1 l
        let b := j.keyOf 2 r
        if a < b then
          let s := if j.unpaired.1 then { s with out := j.write (some l) none :: s.out } else s
          let s := j.look 1 s l ls.head?
          Joining.go j fuel { s with unpaired := true } ls right
        else if b < a then
          let s := if j.unpaired.2 then { s with out := j.write none (some r) :: s.out } else s
          let s := j.look 2 s r rs.head?
          Joining.go j fuel { s with unpaired := true } left rs
        else
          let sames := left.takeWhile fun row => j.keyOf 1 row = b
          let others := right.takeWhile fun row => j.keyOf 2 row = a
          let left := left.drop sames.length
          let right := right.drop others.length
          let s := j.lookAll 1 s sames left.head?
          let s := j.lookAll 2 s others right.head?
          let pairs := sames.flatMap fun x => others.map fun y => j.write (some x) (some y)
          let s := if j.paired then { s with out := pairs.reverse ++ s.out } else s
          Joining.go j fuel s left right
      | _, _ =>
        let s := j.tail 1 s left (!right.isEmpty)
        j.tail 2 s right (!left.isEmpty)

/-- The number of a field, counted from zero. -/
def fieldNumber? (s : String) : Except String Nat :=
  match s.toNat? with
  | some (n + 1) => .ok n
  | _            => .error ("invalid field number: " ++ cited s)

/-- What joined lines are made of, by the text of an option. -/
def outputFields (text : String) : Except String (List OutputField) := do
  let parts := ((text.split fun c => c = ',' || c = ' ' || c = '\t').toList.map (·.toString))
  parts.mapM fun s =>
    match s.toList with
    | ['0'] => .ok .key
    | '0' :: _ => .error ("invalid field specifier: " ++ cited s)
    | c :: '.' :: digits =>
      if c = '1' || c = '2' then
        (fieldNumber? (String.ofList digits)).map fun n => .field (if c = '1' then 1 else 2) n
      else .error ("invalid file number in field spec: " ++ cited s)
    | c :: _ =>
      if c = '1' || c = '2' then .error ("invalid field specifier: " ++ cited s)
      else .error ("invalid file number in field spec: " ++ cited s)
    | [] => .error ("invalid file number in field spec: " ++ cited s)

/-- The key of an input, by options that must not contradict each other. -/
def keyOption (a : Arguments) (letter : Char) : Except String Nat := do
  let given := a.options.filterMap fun (l, s) => if l = letter || l = 'j' then some s else none
  let keys ← given.mapM fieldNumber?
  match keys with
  | [] => return 0
  | k :: more =>
    match more.find? (· != k) with
    | some other =>
      throw ("incompatible join fields " ++ toString k ++ ", " ++ toString other)
    | none => return k

/-- How inputs are joined, by options. -/
def Joining.ofOptions (a : Arguments) : Except String Joining := do
  let sides (letters : List Char) : List String :=
    a.options.filterMap fun (l, s) => if letters.contains l then some s else none
  for s in sides ['a', 'v'] do
    if s != "1" && s != "2" then throw ("invalid field number: " ++ cited s)
  let fillers := sides ['e']
  if fillers.any fun s => some s != fillers.head? then
    throw "conflicting empty-field replacement strings"
  let separators := sides ['t']
  let separator ← match a.last? 't' with
    | none     => pure none
    | some "\\0" => pure (some "\x00")
    | some s   =>
      if s.length > 1 then throw ("multi-character tab " ++ cited s) else pure (some s)
  if separators.any fun s => some s != separators.head? then throw "incompatible tabs"
  let layouts := (sides ['o']).filter (· != "auto")
  let layout ← if layouts.isEmpty then pure none
    else (fun ls => some ls.flatten) <$> layouts.mapM outputFields
  let first ← keyOption a '1'
  let second ← keyOption a '2'
  let unpaired := sides ['a', 'v']
  return { ignoresCase := a.has 'i', separator, keys := (first, second)
           unpaired := (unpaired.contains "1", unpaired.contains "2")
           paired := !a.has 'v', filler := (fillers.head?).getD "", layout, counts := none
           check := OrderCheck.ofOptions 'κ' 'ν' a }

/-- Joins the lines of two inputs that have a field in common. -/
def join : Builtin := fun _ args => joinUsage.run args fun a => do
  match Joining.ofOptions a with
  | .error fault =>
    joinUsage.complain fault
    return 1
  | .ok j =>
    if a.rest = ["-", "-"] then
      joinUsage.complain "both files cannot be standard input"
      return 1
    match ← readTwo joinUsage a with
    | .error status => return status
    | .ok (first, second) =>
      let ending := lineEnd a
      let rowsOf (text : String) : List Row :=
        (linesUpTo ending text).zipIdx.map fun (line, n) =>
          ⟨line, (fieldsOf j.separator line).toArray, n + 1⟩
      let left := rowsOf first
      let right := rowsOf second
      let sizeOf (rows : List Row) : Nat := (rows.head?.map (·.fields.size)).getD 0
      let automatic := a.options.any fun o => o.1 = 'o' && o.2 = "auto"
      let j := if automatic then { j with counts := some (sizeOf left, sizeOf right) } else j
      let hasHeader := a.has 'η' && !(left.isEmpty && right.isEmpty)
      let header := if hasHeader then [j.write left.head? right.head?] else []
      let left := if a.has 'η' then left.drop 1 else left
      let right := if a.has 'η' then right.drop 1 else right
      let s := j.go (left.length + right.length + 1) ⟨header, false, []⟩ left right
      for (input, row) in s.disorder.reverse do
        joinUsage.complain ((a.rest.getD (input - 1) "") ++ ":" ++ toString row.number ++
          ": is not sorted: " ++ row.line)
      let failed := !s.disorder.isEmpty
      let status ← finish "join" (joinLines ending s.out.reverse) failed
      if failed && j.check != .always then joinUsage.complain "input is not in sorted order"
      return status

/-! ### Orders from pairs -/

def tsortUsage : Usage := { program := "tsort", letters := "", names := [], misuse := 1 }

/-- An item that is put in order. -/
structure Item where
  name       : String
  /-- How many items in front of it are not printed yet. -/
  awaited    : Nat
  /-- The items behind it. -/
  successors : List Nat
  printed    : Bool

/-- The items of pairs, in the order of their names. -/
def itemsOf (pairs : List (String × String)) : Array Item :=
  let names := ((pairs.flatMap fun (a, b) => [a, b]).mergeSort (· ≤ ·)).eraseDups
  let items := (names.map fun name => (⟨name, 0, [], false⟩ : Item)).toArray
  let index (name : String) : Nat := (names.findIdx? (· = name)).getD 0
  pairs.foldl
    (fun items (a, b) =>
      if a = b then items
      else
        let items := items.modify (index b) fun i => { i with awaited := i.awaited + 1 }
        items.modify (index a) fun i => { i with successors := index b :: i.successors })
    items

/-- Prints the items of a queue, and those that wait for none any more behind them. -/
def releaseItems : (fuel : Nat) → Array Item → (queue : List Nat) → (out : List String) →
    Array Item × List String
  | 0, items, _, out => (items, out)
  | _, items, [], out => (items, out)
  | fuel + 1, items, k :: queue, out =>
    match items[k]? with
    | none => (items, out)
    | some item =>
      let items := items.modify k fun i => { i with printed := true }
      let (items, free) := item.successors.foldl
        (fun (items, free) n =>
          let items : Array Item := items.modify n fun i => { i with awaited := i.awaited - 1 }
          if items[n]?.any (·.awaited = 0) then (items, n :: free) else (items, free))
        (items, ([] : List Nat))
      releaseItems fuel items (queue ++ free.reverse) (item.name :: out)

/-- A search for a loop among items: the last item that was found, and the one behind each. -/
structure LoopSearch where
  items  : Array Item
  head   : Option Nat
  behind : Array (Option Nat)
  /-- The names of the items of a loop, once it is found. -/
  found  : Option (List String)

/-- The items from one on, each followed by the one behind it, up to some item. -/
def LoopSearch.wayTo (s : LoopSearch) (last : Nat) : (fuel : Nat) → Nat → List Nat
  | 0, k => [k]
  | fuel + 1, k =>
    if k = last then [k]
    else
      match s.behind.getD k none with
      | none      => [k]
      | some next => k :: s.wayTo last fuel next

/-- Looks at an item that waits: whether the item that was found last is behind it. Where the item was
found before, that is a loop, and is broken here. -/
def LoopSearch.visit (s : LoopSearch) (k : Nat) : LoopSearch :=
  match s.found, s.items[k]? with
  | none, some item =>
    if item.awaited = 0 then s
    else
      match s.head with
      | none => { s with head := some k }
      | some head =>
        if !item.successors.contains head then s
        else if (s.behind.getD k none).isNone then
          { s with behind := s.behind.setIfInBounds k (some head), head := some k }
        else
          let names := (s.wayTo k (s.items.size + 1) head).filterMap fun n =>
            s.items[n]?.map (·.name)
          let items := s.items.modify k fun i => { i with successors := i.successors.erase head }
          let items := items.modify head fun i => { i with awaited := i.awaited - 1 }
          { s with items, found := some names }
  | _, _ => s

/-- Goes through all items again and again until a loop is found. -/
def LoopSearch.run : (fuel : Nat) → LoopSearch → LoopSearch
  | 0, s => s
  | fuel + 1, s =>
    let s := (List.range s.items.size).foldl LoopSearch.visit s
    if s.found.isSome || s.head.isNone then s else LoopSearch.run fuel s

/-- Puts all items in order, and breaks loops that keep some from it. -/
def orderItems : (fuel : Nat) → Array Item → (out : List String) → (loops : List (List String)) →
    List String × List (List String)
  | 0, _, out, loops => (out, loops)
  | fuel + 1, items, out, loops =>
    let free := (List.range items.size).filter fun n =>
      items[n]?.any fun i => i.awaited = 0 && !i.printed
    let (items, out) := releaseItems (items.size + 1) items free out
    if items.all (·.printed) then (out, loops)
    else
      let s := LoopSearch.run (2 * items.size + 2) ⟨items, none, items.map fun _ => none, none⟩
      match s.found with
      | some names => orderItems fuel s.items out (names :: loops)
      | none       => (out, loops)

/-- Prints the items of pairs in an order in which each pair is. -/
def tsort : Builtin := fun _ args => tsortUsage.run args fun a => do
  if let extra :: _ := a.rest.drop 1 then
    return ← tsortUsage.refuse ("extra operand " ++ cited extra)
  let name := a.rest.headD "-"
  match ← readInput name with
  | .error reason =>
    tsortUsage.complain (shownName name ++ ": " ++ reason)
    return 1
  | .ok text =>
    let words := ((text.split fun c => c = ' ' || c = '\t' || c = '\n').toList.map
      (·.toString)).filter (· != "")
    let rec pairsOf : List String → Option (List (String × String))
      | []            => some []
      | [_]           => none
      | a :: b :: rest => (pairsOf rest).map ((a, b) :: ·)
    match pairsOf words with
    | none =>
      tsortUsage.complain (name ++ ": input contains an odd number of tokens")
      return 1
    | some pairs =>
      let items := itemsOf pairs
      let (out, loops) := orderItems (pairs.length + items.size + 1) items [] []
      for names in loops.reverse do
        tsortUsage.complain (name ++ ": input contains a loop:")
        for n in names do tsortUsage.complain n
      finish "tsort" (unlines out.reverse) (!loops.isEmpty)

end BoardConsole.Shell.Utility
