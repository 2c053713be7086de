import BoardConsole.Shell.Utility.Text

/-!
# Shell — Columns of characters

Utilities that look at the column that each character stands in: `fold` breaks lines that are too
long, `expand` replaces tabs by blanks, and `unexpand` blanks by tabs.
-/

namespace BoardConsole.Shell.Utility

open Act

/-! ### Folding -/

def foldUsage : Usage :=
  { program := "fold", letters := "w:bs", misuse := 1
    names := [("width", 'w'), ("bytes", 'b'), ("spaces", 's')] }

/-- The column behind a character. -/
def columnAfter (byBytes : Bool) (column : Nat) (c : Char) : Nat :=
  if byBytes then column + 1
  else
    match c with
    | '\x08' => column - 1
    | '\r'   => 0
    | '\t'   => column / 8 * 8 + 8
    | _      => column + 1

/-- A line that is being broken: what was put out, and what was not, last first. -/
structure Folding where
  out    : List Char
  held   : List Char
  column : Nat

/-- The line with one more character. Where it would be too long, it is broken in front of that, or
behind the last blank. -/
def Folding.add (width : Nat) (byBytes atBlanks : Bool) : (fuel : Nat) → Folding → Char → Folding
  | 0, f, c => { f with held := c :: f.held }
  | fuel + 1, f, c =>
    let column := columnAfter byBytes f.column c
    if column ≤ width then { f with held := c :: f.held, column }
    else
      let after := f.held.takeWhile fun c => c != ' ' && c != '\t'
      let before := f.held.drop after.length
      if atBlanks && !before.isEmpty then
        let column := after.reverse.foldl (columnAfter byBytes) 0
        Folding.add width byBytes atBlanks fuel ⟨'\n' :: before ++ f.out, after, column⟩ c
      else if f.held.isEmpty then { f with held := [c], column }
      else Folding.add width byBytes atBlanks fuel ⟨'\n' :: f.held ++ f.out, [], 0⟩ c

/-- A text with its long lines broken. -/
def foldText (width : Nat) (byBytes atBlanks : Bool) (text : String) : String :=
  let f := text.toList.foldl
    (fun (f : Folding) c =>
      if c = '\n' then ⟨'\n' :: f.held ++ f.out, [], 0⟩
      else f.add width byBytes atBlanks (f.held.length + 2) c)
    ⟨[], [], 0⟩
  String.ofList (f.held ++ f.out).reverse

/-- Breaks long lines. -/
def fold : Builtin := fun _ args =>
  let args := args.map fun a =>
    match a.toList with
    | '-' :: c :: cs => if (c :: cs).all Char.isDigit then "-w" ++ String.ofList (c :: cs) else a
    | _ => a
  foldUsage.run args fun a => do
    let width := (a.last? 'w').getD "80"
    match width.toNat? with
    | none | some 0 =>
      foldUsage.complain ("invalid number of columns: " ++ cited width)
      return 1
    | some width =>
      let (texts, failed) ← readInputs (plainWords "fold") a.rest
      finish "fold" (String.join (texts.map fun t => foldText width (a.has 'b') (a.has 's') t.2)) failed

/-! ### Tabs -/

/-- The columns where tabs end: some of them, and how far the others are apart behind these. Without
such a distance there are no others. -/
structure TabStops where
  stops : List Nat
  /-- Whether the others are counted from the last of the stops. -/
  fromLast : Bool
  every : Option Nat

/-- The first stop behind a column. -/
def TabStops.next? (t : TabStops) (column : Nat) : Option Nat :=
  match t.stops.find? (column < ·) with
  | some stop => some stop
  | none =>
    t.every.map fun every =>
      let origin := if t.fromLast then t.stops.getLastD 0 else 0
      origin + ((column - origin) / every + 1) * every

/-- The stops that a text lists. -/
def TabStops.ofText? (s : String) : Except String TabStops := do
  let words := (s.split fun c => c = ',' || c = ' ' || c = '\t').toList.map (·.toString)
  let words := words.filter (· != "")
  let read (w : String) : Except String Nat :=
    match w.toNat? with
    | some n => .ok n
    | none   => .error ("tab size contains invalid character(s): " ++ cited w)
  let rec go : List String → List Nat → Except String TabStops
    | [], [n]   => if n = 0 then .error "tab size cannot be 0" else .ok ⟨[], false, some n⟩
    | [], stops => .ok ⟨stops, false, none⟩
    | w :: rest, stops => do
      match w.toList with
      | '/' :: cs => return ⟨stops, false, some (← read (String.ofList cs))⟩
      | '+' :: cs => return ⟨stops, true, some (← read (String.ofList cs))⟩
      | _ =>
        let n ← read w
        if n = 0 then throw "tab size cannot be 0"
        else if n ≤ stops.getLastD 0 then throw "tab sizes must be ascending"
        else go rest (stops ++ [n])
  if words.isEmpty then return ⟨[], false, some 8⟩ else go words []

/-- The stops that arguments ask for; a list may be an option of its own. -/
def TabStops.ofArguments (a : Arguments) : Except String TabStops :=
  let lists := (a.options.filter fun o => o.1 = 't').map (·.2)
  if lists.isEmpty then .ok ⟨[], false, some 8⟩ else TabStops.ofText? (",".intercalate lists)

/-- Arguments in which a list of stops written as an option stands as the argument of `-t`. -/
def withTabOption (args : List String) : List String :=
  args.flatMap fun a =>
    match a.toList with
    | '-' :: c :: cs =>
      if (c :: cs).all fun c => c.isDigit || c = ',' then ["-t" ++ String.ofList (c :: cs)] else [a]
    | _ => [a]

def expandUsage : Usage :=
  { program := "expand", letters := "it:", misuse := 1
    names := [("initial", 'i'), ("tabs", 't')] }

/-- A text whose tabs are blanks, from a column on; `live` where tabs are still replaced. -/
def expandText (t : TabStops) (initialOnly : Bool) : (column : Nat) → (live : Bool) → List Char →
    List Char
  | _, _, [] => []
  | column, live, c :: cs =>
    if c = '\n' then c :: expandText t initialOnly 0 true cs
    else if c = '\t' && live then
      let stop := (t.next? column).getD (column + 1)
      List.replicate (stop - column) ' ' ++ expandText t initialOnly stop true cs
    else
      let column := if c = '\x08' then column - 1 else column + 1
      c :: expandText t initialOnly column (live && (!initialOnly || c = ' ')) cs

/-- Replaces tabs by blanks. -/
def expand : Builtin := fun _ args => expandUsage.run (withTabOption args) fun a => do
  match TabStops.ofArguments a with
  | .error message =>
    expandUsage.complain message
    return 1
  | .ok stops =>
    let (texts, failed) ← readInputs (plainWords "expand") a.rest
    finish "expand"
      (String.join (texts.map fun t => String.ofList (expandText stops (a.has 'i') 0 true t.2.toList)))
      failed

def unexpandUsage : Usage :=
  { program := "unexpand", letters := "at:φ", misuse := 1
    names := [("all", 'a'), ("tabs", 't'), ("first-only", 'φ')] }

/-- A line whose blanks are being replaced. -/
structure Tabbing where
  out     : List Char
  column  : Nat
  /-- Blanks that may become a tab, last first. -/
  pending : List Char
  /-- Whether a single blank stands right in front of a stop. -/
  single  : Bool
  /-- Whether the character before was a blank. -/
  blank   : Bool
  /-- Whether blanks are still replaced. -/
  live    : Bool

/-- The beginning of a line behind some text. -/
def Tabbing.start (out : List Char) : Tabbing := ⟨out, 0, [], false, false, true⟩

/-- The line with the blanks put out that were pending. -/
def Tabbing.flush (t : Tabbing) : Tabbing :=
  let pending := match t.pending.reverse with
    | c :: d :: rest => (if t.single then '\t' else c) :: d :: rest
    | short          => short
  { t with out := pending.reverse ++ t.out, pending := [], single := false }

/-- The line with one more character. -/
def Tabbing.add (stops : TabStops) (everywhere : Bool) (t : Tabbing) (c : Char) : Tabbing :=
  let put (t : Tabbing) (c : Char) (blank : Bool) : Tabbing :=
    let t := t.flush
    { t with out := c :: t.out, blank, live := t.live && (everywhere || blank) }
  if c = '\n' then .start (c :: (if t.live then t.flush else t).out)
  else if !t.live then { t with out := c :: t.out }
  else if c = ' ' || c = '\t' then
    match stops.next? t.column with
    | none => put { t with live := false } c true
    | some stop =>
      -- What is pending is replaced by one tab, but for a single blank in front of a stop.
      let kept (t : Tabbing) : Tabbing := { t with pending := if t.single then ['\t'] else [] }
      if c = '\t' then put (kept { t with column := stop }) '\t' true
      else
        let column := t.column + 1
        if t.blank && column = stop then put (kept { t with column }) '\t' true
        else
          { t with
            column, pending := c :: t.pending, blank := true
            single := t.single || column = stop }
  else if c = '\x08' then put { t with column := t.column - 1 } c false
  else put { t with column := t.column + 1 } c false

/-- Replaces blanks by tabs. -/
def unexpand : Builtin := fun _ args => unexpandUsage.run (withTabOption args) fun a => do
  match TabStops.ofArguments a with
  | .error message =>
    unexpandUsage.complain message
    return 1
  | .ok stops =>
    let everywhere := (a.has 'a' || a.has 't') && !a.has 'φ'
    let (texts, failed) ← readInputs (plainWords "unexpand") a.rest
    let text := String.join (texts.map (·.2))
    let t := text.toList.foldl (Tabbing.add stops everywhere) (.start [])
    finish "unexpand" (String.ofList (if t.live then t.flush else t).out.reverse) failed

end BoardConsole.Shell.Utility
