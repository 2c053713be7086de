import BoardConsole.Shell.Format
import BoardConsole.Shell.Regex
import BoardConsole.Shell.Utility.Remove
import BoardConsole.Shell.Utility.Text

/-!
# Shell — Sections of an input

`csplit` cuts an input where its operands say: at the numbers of lines, and at lines that match. Each
section becomes a file, but those that are skipped.
-/

namespace BoardConsole.Shell.Utility

open Act

/-! ### Places -/

/-- Where a section ends. -/
inductive SectionStop where
  /-- In front of a line with some number, and of those with its multiples. -/
  | line (number : Nat)
  /-- Some lines behind one that matches; `skips` if the section becomes no file. -/
  | pattern (r : Regex) (offset : Int) (skips : Bool)

/-- The ends of sections, as an operand says: one and some more, or as many as there are. -/
structure SectionRule where
  text : String
  stop : SectionStop
  more : Option Nat

/-- The number that a text spells. -/
def sectionNumber? (s : String) : Option Nat :=
  let digits := (if s.startsWith "+" then s.drop 1 else s.drop 0).toString
  if digits != "" && digits.all Char.isDigit then digits.toNat? else none

/-- The rule of an operand that has an expression. -/
def patternRule (s : String) (delimiter : Char) : Except String SectionRule := do
  let text := s.toList.drop 1
  let after := (text.reverse.takeWhile (· != delimiter)).reverse
  if after.length = text.length then
    throw (s ++ ": closing delimiter '" ++ String.ofList [delimiter] ++ "' missing")
  let inner := String.ofList (text.take (text.length - after.length - 1))
  let r ← match Regex.ofText { lenient := true } inner with
    | .ok r        => pure r
    | .error fault => throw (cited s ++ ": invalid regular expression: " ++ fault.message)
  let offset := match after with
    | []        => some 0
    | '-' :: cs => (sectionNumber? (String.ofList cs)).map fun n => -(n : Int)
    | cs        => (sectionNumber? (String.ofList cs)).map Int.ofNat
  match offset with
  | some n => return ⟨s, .pattern r n (delimiter = '%'), some 0⟩
  | none   => throw (cited s ++ ": integer expected after delimiter")

/-- The rules of operands, the words of warnings, and of the first fault. -/
def sectionRules : (last : Nat) → List String → List SectionRule × List String × Option String
  | _, [] => ([], [], none)
  | last, s :: rest =>
    let read : Except String (SectionRule × List String × Nat) :=
      match s.toList with
      | '/' :: _ => (patternRule s '/').map (·, [], last)
      | '%' :: _ => (patternRule s '%').map (·, [], last)
      | _ =>
        match sectionNumber? s with
        | none   => .error (cited s ++ ": invalid pattern")
        | some 0 => .error (s ++ ": line number must be greater than zero")
        | some n =>
          if n < last then
            .error ("line number " ++ cited s ++ " is smaller than preceding line number, " ++
              toString last)
          else
            .ok (⟨s, .line n, some 0⟩,
              if n = last then
                ["warning: line number " ++ cited s ++ " is the same as preceding line number"]
              else [], n)
    match read with
    | .error message => ([], [], some message)
    | .ok (rule, warnings, last) =>
      let times : Except String (Option (Option Nat)) :=
        match rest with
        | t :: _ =>
          if !t.startsWith "\x7b" then .ok none
          else if !t.endsWith "\x7d" then .error (cited t ++ ": '\x7d' is required in repeat count")
          else
            let inner := ((t.drop 1).dropEnd 1).toString
            if inner = "*" then .ok (some none)
            else
              match sectionNumber? inner with
              | some n => .ok (some (some n))
              | none =>
                .error (cited (t.dropEnd 1).toString ++
                  "\x7d: integer required between '\x7b' and '\x7d'")
        | [] => .ok none
      match times, rest with
      | .error message, _ => ([], warnings, some message)
      | .ok (some more), _ :: rest =>
        let (rules, others, fault) := sectionRules last rest
        ({ rule with more } :: rules, warnings ++ others, fault)
      | .ok _, rest =>
        let (rules, others, fault) := sectionRules last rest
        (rule :: rules, warnings ++ others, fault)

/-! ### Sections -/

/-- An input that is being cut: all its lines; the number of the first that belongs to no section yet;
the number of the line looked at last; the sections so far, the last first, and the open one. -/
structure Sectioning where
  lines   : Array String
  first   : Nat
  present : Nat
  done    : List String
  open?   : Option (List String)

/-- Why no more sections are found. -/
inductive SectionEnd where
  /-- Nothing is wrong. -/
  | complete
  /-- The sections so far are in vain. -/
  | failed (message : String)
  /-- There is nothing left to read. -/
  | gone

/-- Steps that find sections. -/
abbrev Sectioner := ExceptT SectionEnd (StateM Sectioning)

/-- Begins a section. -/
def beginSection : Sectioner Unit := modify ({ · with open? := some [] })

/-- Ends a section. -/
def endSection : Sectioner Unit :=
  modify fun s =>
    match s.open? with
    | none       => s
    | some lines => { s with done := String.join lines.reverse :: s.done, open? := none }

/-- A line by its number, as long as any line is left. -/
def lineNumbered? (n : Nat) : Sectioner (Option String) := do
  let s ← get
  return if s.first > s.lines.size || n = 0 then none else s.lines[n - 1]?

/-- Takes the first line that belongs to no section. -/
def takeLine : Sectioner (Option String) := do
  let s ← get
  match s.lines[s.first - 1]? with
  | none => return none
  | some line =>
    set { s with present := max s.present s.first, first := s.first + 1 }
    return some line

/-- Puts a line into the open section. -/
def keepLine (line : String) : Sectioner Unit :=
  modify fun s => { s with open? := s.open?.map (line :: ·) }

/-- Fails. The open section ends there. -/
def failSections {α : Type} (message : String) : Sectioner α := do
  endSection
  throw (.failed message)

/-- The words for a repetition. -/
def repetitionWords (turn : Nat) : String :=
  if turn = 0 then "" else " on repetition " ++ toString turn

/-- Takes some lines. -/
def takeLines (fault : String) (keeps : Bool) : Nat → Sectioner Unit
  | 0 => pure ()
  | n + 1 => do
    match ← takeLine with
    | none      => failSections fault
    | some line => if keeps then keepLine line
    takeLines fault keeps n

/-- Takes all lines that are left. -/
def takeRest : Sectioner Unit := do
  let s ← get
  takeLines "" true (s.lines.size + 1 - s.first)

/-- Asks for a line that is left. -/
def needLine : Sectioner Nat := do
  let s ← get
  if s.first > s.lines.size then throw .gone else return s.first

/-- Takes lines up to the one with a number. -/
def cutAtLine (suppresses : Bool) (number turn : Nat) : Sectioner Unit := do
  let fault := cited (toString number) ++ ": line number out of range" ++ repetitionWords turn
  let exhausted : Sectioner Bool := do return (← lineNumbered? ((← get).present + 1)).isNone
  beginSection
  if suppresses then
    if ← exhausted then failSections fault
  let first ← needLine
  takeLines fault true (number * (turn + 1) - first)
  endSection
  if suppresses then
    let _ ← takeLine
  else if ← exhausted then failSections fault

/-- Looks for a line that matches. Lines before it are taken, if the section cannot end in front of
them. -/
def seekLine (r : Regex) (takes keeps : Bool) : (fuel : Nat) → Sectioner Bool
  | 0 => return false
  | fuel + 1 => do
    modify fun s => { s with present := s.present + 1 }
    match ← lineNumbered? (← get).present with
    | none => return false
    | some line =>
      if (Regex.find false r (withoutEnd line).toList).isSome then return true
      if takes then
        let own ← takeLine
        if keeps then own.forM keepLine
      seekLine r takes keeps fuel

/-- Takes lines up to one that matches. Where there is none, rules without end are done. -/
def cutAtMatch (suppresses : Bool) (rule : SectionRule) (r : Regex) (offset : Int) (skips : Bool)
    (turn : Nat) : Sectioner Unit := do
  if !skips then beginSection
  if !(← seekLine r (offset ≥ 0) (!skips) ((← get).lines.size + 2)) then
    if !skips then
      takeRest
      endSection
    if rule.more.isNone then throw .complete
    else throw (.failed (cited rule.text ++ ": match not found" ++ repetitionWords turn))
  let stop : Int := (← get).present + offset
  let first ← needLine
  let fault := cited rule.text ++ ": line number out of range"
  if stop < first then failSections fault
  takeLines fault (!skips) (stop - first).toNat
  endSection
  if offset > 0 then modify ({ · with present := stop.toNat })
  if suppresses then
    let _ ← takeLine

/-- Follows a rule as often as it says. -/
def followRule (suppresses : Bool) (rule : SectionRule) : (fuel : Nat) → (turn : Nat) → Sectioner Unit
  | 0, _ => pure ()
  | fuel + 1, turn => do
    if rule.more.any (turn > ·) then return ()
    match rule.stop with
    | .line number             => cutAtLine suppresses number turn
    | .pattern r offset skips  => cutAtMatch suppresses rule r offset skips turn
    followRule suppresses rule fuel (turn + 1)

/-- Follows all rules; what is left is the last section. -/
def followRules (suppresses : Bool) (rules : List SectionRule) : Sectioner Unit := do
  for rule in rules do followRule suppresses rule ((← get).lines.size + (rule.more.getD 0) + 2) 0
  beginSection
  takeRest
  endSection

/-- The sections of a text, one that has no end, and how they end. -/
def sectionsOf (suppresses : Bool) (rules : List SectionRule) (text : String) :
    List String × Option String × SectionEnd :=
  let (result, s) := (followRules suppresses rules).run
    ⟨(linesWithEnds text).toArray, 1, 0, [], none⟩
  let opened := s.open?.map fun lines => String.join lines.reverse
  match result with
  | .ok ()        => (s.done.reverse, opened, .complete)
  | .error ending => (s.done.reverse, opened, ending)

/-! ### Names -/

/-- How the number of a section is written in the name of its file. -/
structure SectionNames where
  front     : String
  layout    : Format.Layout
  directive : Char
  back      : String

/-- The name for a number. -/
def SectionNames.spell (s : SectionNames) (n : Nat) : String :=
  s.front ++ (if s.directive = 'd' then s.layout.signed n else s.layout.unsigned s.directive n) ++ s.back

/-- Text up to a directive, with `%%` for a percent sign, and what follows. -/
def plainFormat : List Char → List Char × Option (List Char)
  | '%' :: '%' :: rest => let (front, more) := plainFormat rest; ('%' :: front, more)
  | '%' :: rest        => ([], some rest)
  | c :: rest          => let (front, more) := plainFormat rest; (c :: front, more)
  | []                 => ([], none)

/-- The names that a format describes. -/
def SectionNames.ofFormat (front format : String) : Except String SectionNames := do
  let (before, rest) := plainFormat format.toList
  match rest with
  | none => throw "missing % conversion specification in suffix"
  | some rest =>
    let flags := rest.takeWhile ['-', '0', '\'', '#'].contains
    let rest := rest.drop flags.length
    let width := rest.takeWhile Char.isDigit
    let rest := rest.drop width.length
    let places := match rest with
      | '.' :: cs => some (cs.takeWhile Char.isDigit)
      | _         => none
    let rest := match places with
      | some digits => rest.drop (digits.length + 1)
      | none        => rest
    match rest with
    | [] => throw "missing conversion specifier in suffix"
    | c :: rest =>
      if !(['d', 'i', 'u', 'o', 'x', 'X'].contains c) then
        throw ("invalid conversion specifier in suffix: " ++ String.ofList [c])
      let decimal : Bool := ['d', 'i', 'u'].contains c
      let wrong := if decimal then '#' else '\''
      if flags.contains wrong then
        throw ("invalid flags in conversion specification: %" ++ String.ofList [wrong, c])
      let (after, more) := plainFormat rest
      if more.isSome then throw "too many % conversion specifications in suffix"
      let layout : Format.Layout :=
        { left := flags.contains '-', plus := false, space := false, alternate := flags.contains '#'
          zero := flags.contains '0', width := Arithmetic.valueOf 10 width
          precision := places.map (Arithmetic.valueOf 10) }
      return ⟨front ++ String.ofList before, layout, if decimal then 'd' else c, String.ofList after⟩

/-! ### The utility -/

def csplitUsage : Usage :=
  { program := "csplit", letters := "f:b:kn:sqzμ", misuse := 1
    names := [("digits", 'n'), ("quiet", 'q'), ("silent", 's'), ("keep-files", 'k'),
      ("elide-empty-files", 'z'), ("prefix", 'f'), ("suffix-format", 'b'), ("suppress-matched", 'μ')] }

/-- The names that the arguments ask for. -/
def SectionNames.ofArguments (a : Arguments) : Except String SectionNames := do
  let front := (a.last? 'f').getD "xx"
  let digits ← match a.last? 'n' with
    | none   => pure 2
    | some s =>
      match sectionNumber? s with
      | some n => pure n
      | none   => throw ("invalid number: " ++ cited s)
  match a.last? 'b' with
  | some format => SectionNames.ofFormat front format
  | none =>
    let layout : Format.Layout := ⟨false, false, false, false, true, digits, none⟩
    return ⟨front, layout, 'd', ""⟩

/-- Writes sections, and answers the names of their files and the reason for a fault. -/
def writeSections (names : SectionNames) : (number : Nat) → List String →
    Act (List String × Option String)
  | _, [] => return ([], none)
  | number, text :: rest => do
    let name := names.spell number
    match ← writeFile name text false with
    | .error reason => return ([], some (shownName name ++ ": " ++ reason))
    | .ok () =>
      let (more, fault) ← writeSections names (number + 1) rest
      return (name :: more, fault)

/-- Removes files, as far as they are there. -/
def removeAll (names : List String) : Act Unit := do
  for name in names do
    if let .ok (_, path) ← look false name then deletePath path

/-- Whether a rule makes a file. -/
def SectionRule.makesFile (rule : SectionRule) : Bool :=
  match rule.stop with
  | .line _            => true
  | .pattern _ _ skips => !skips

/-- Cuts a text into sections, and writes them. What cannot be read is found out behind the beginning
of the first one. -/
def cutSections (a : Arguments) (names : SectionNames) (rules : List SectionRule)
    (text : Except String String) : Act Nat := do
  let (sections, opened, ending) : List String × Option String × SectionEnd := match text with
    | .ok text => sectionsOf (a.has 'μ') rules text
    | .error reason =>
      (if rules.head?.all (·.makesFile) then [""] else [], none, .failed ("read error: " ++ reason))
  let sections := if a.has 'z' then sections.filter (· != "") else sections
  let (written, fault) ← writeSections names 0 (sections ++ opened.toList)
  let shown := (sections.take written.length).map fun text => toString text.length ++ "\n"
  let shown := if a.has 's' || a.has 'q' then [] else shown
  match fault, ending with
  | some message, _ | none, .failed message =>
    csplitUsage.complain message
    let _ ← printChecked "csplit" (String.join shown)
    if !a.has 'k' then removeAll written
    return 1
  | none, .gone =>
    csplitUsage.complain "input disappeared"
    let _ ← printChecked "csplit" (String.join shown)
    return 1
  | none, .complete => printChecked "csplit" (String.join shown)

/-- Cuts an input into sections. -/
def csplit : Builtin := fun _ args => csplitUsage.run args fun a => do
  let failed (message : String) : Act Nat := do
    csplitUsage.complain message
    return 1
  match SectionNames.ofArguments a with
  | .error message => failed message
  | .ok names =>
    match a.rest with
    | []    => csplitUsage.refuse "missing operand"
    | [_]   => csplitUsage.refuse ("missing operand after " ++ cited (args.getLastD ""))
    | name :: operands =>
      let read ← readInput name
      match read with
      | .error reason =>
        if reason != PathFault.isADirectory.reason then
          return ← failed ("cannot open " ++ quoted name ++ " for reading: " ++ reason)
      | .ok _ => pure ()
      let (rules, warnings, fault) := sectionRules 0 operands
      for warning in warnings do csplitUsage.complain warning
      match fault with
      | some message => failed message
      | none         => cutSections a names rules read

end BoardConsole.Shell.Utility
