import BoardConsole.Shell.Pattern
import BoardConsole.Shell.Utility.Text

/-!
# Shell — Sets of characters

`tr` replaces, removes and squeezes the characters of sets. A set is spelled by characters, ranges,
classes and characters that are repeated; where characters are replaced, those of the second set stand
for those at the same places of the first.
-/

namespace BoardConsole.Shell.Utility

open Act

def trUsage : Usage :=
  { program := "tr", letters := "cCdst", misuse := 1
    names := [("complement", 'c'), ("delete", 'd'), ("squeeze-repeats", 's'),
      ("truncate-set1", 't')] }

/-! ### Spelling -/

/-- A character of the text of a set, and whether a backslash stands in front of it. -/
structure SetChar where
  char    : Char
  escaped : Bool
deriving DecidableEq

/-- Whether a character is one that no backslash stands in front of. -/
def SetChar.isBare (s : SetChar) (c : Char) : Bool := s.char = c && !s.escaped

/-- The characters of a text, backslashes resolved. -/
def setChars : (fuel : Nat) → List Char → List SetChar
  | 0, _ | _, [] => []
  | _, ['\\'] => [⟨'\\', false⟩]
  | fuel + 1, '\\' :: c :: rest =>
    if Format.isOctal c then
      let three := Format.octalDigits (c :: rest)
      let digits := if 255 < Arithmetic.valueOf 8 three then three.take 2 else three
      ⟨Format.octal digits, true⟩ :: setChars fuel ((c :: rest).drop digits.length)
    else
      let meant := if c = 'e' then c else (Format.letter? c).getD c
      ⟨meant, true⟩ :: setChars fuel rest
  | fuel + 1, c :: rest => ⟨c, false⟩ :: setChars fuel rest

/-- A part of a set. -/
inductive SetPart where
  | char (c : Char)
  | range (first last : Char)
  | classOf (name : String) (cs : List Char)
  | equals (c : Char)
  /-- A character as often as is said, or as is needed. -/
  | fill (c : Char) (count : Nat)

/-- The characters in some ranges. -/
def charsOf (ranges : List (Char × Char)) : List Char :=
  (List.range 256).filterMap fun n =>
    let c := Char.ofNat n
    if ranges.any fun (a, b) => a ≤ c && c ≤ b then some c else none

/-- A character as messages show it. -/
def shownChar (c : Char) : String :=
  if ' ' ≤ c && c ≤ '~' then String.ofList [c]
  else "\\" ++ String.ofList (Decimal.digitsOf ((String.ofList (Nat.toDigits 8 c.toNat)).toNat?.getD 0) 3)

/-- Characters as messages show them. -/
def shownChars (cs : List SetChar) : String := String.join (cs.map fun s => shownChar s.char)

/-- What stands up to a mark and a bracket behind it, and what follows them. -/
def upToMark (mark : Char) : List SetChar → Option (List SetChar × List SetChar)
  | s :: t :: rest =>
    if s.isBare mark && t.isBare ']' then some ([], rest)
    else (upToMark mark (t :: rest)).map fun (inner, after) => (s :: inner, after)
  | _ => none

/-- A character that is repeated, and what follows it: nothing where there is none. -/
def repeat? : List SetChar → Except String (Option (SetPart × List SetChar))
  | c :: star :: rest =>
    if !star.isBare '*' then .ok none
    else
      let digits := rest.takeWhile fun s => !s.isBare ']' && !s.escaped
      match rest.drop digits.length with
      | close :: after =>
        if !close.isBare ']' then .ok none
        else
          let cs := digits.map (·.char)
          let base := if cs.head? = some '0' then 8 else 10
          let good := cs.all fun c => c.isDigit && (base = 10 || c < '8')
          if good then .ok (some (.fill c.char (Arithmetic.valueOf base cs), after))
          else .error ("invalid repeat count " ++ cited (shownChars digits) ++ " in [c*n] construct")
      | [] => .ok none
  | _ => .ok none

/-- Whether a repeated character may be meant: a star, digits and a bracket. -/
def isRepeat (cs : List SetChar) : Bool :=
  match cs with
  | star :: rest =>
    let digits := rest.takeWhile fun s => s.char.isDigit
    star.isBare '*' && (rest.drop digits.length).head?.any (·.isBare ']')
  | [] => false

/-- A class or a character in brackets, and what follows it: nothing where there is none. -/
def bracketed? (cs : List SetChar) : Except String (Option (SetPart × List SetChar)) :=
  match cs with
  | mark :: rest =>
    if !mark.isBare ':' && !mark.isBare '=' then .ok none
    else
      match upToMark mark.char rest with
      | none => .ok none
      | some ([], _) =>
        .error (if mark.char = ':' then "missing character class name '[::]'"
          else "missing equivalence class character '[==]'")
      | some (inner, after) =>
        let name := String.ofList (inner.map (·.char))
        if mark.char = ':' then
          match Pattern.classes.lookup name with
          | some ranges => .ok (some (.classOf name (charsOf ranges), after))
          | none =>
            if isRepeat rest then .ok none
            else .error ("invalid character class " ++ cited (shownChars inner))
        else
          match inner with
          | [s] => .ok (some (.equals s.char, after))
          | _ =>
            if isRepeat rest then .ok none
            else
              .error (shownChars inner ++ ": equivalence class operand must be a single character")
  | [] => .ok none

/-- The parts of a set. -/
def setParts : (fuel : Nat) → List SetChar → Except String (List SetPart)
  | 0, _ | _, [] => .ok []
  | fuel + 1, s :: rest => do
    let special ←
      if s.isBare '[' && 2 ≤ rest.length then
        match ← bracketed? rest with
        | some found => pure (some found)
        | none       => repeat? rest
      else pure none
    match special, rest with
    | some (part, after), _ => return part :: (← setParts fuel after)
    | none, dash :: last :: after =>
      if dash.isBare '-' then
        if last.char < s.char then
          throw ("range-endpoints of '" ++ shownChar s.char ++ "-" ++ shownChar last.char ++
            "' are in reverse collating sequence order")
        else return .range s.char last.char :: (← setParts fuel after)
      else return .char s.char :: (← setParts fuel rest)
    | none, _ => return .char s.char :: (← setParts fuel rest)

/-- The parts of the set that a text spells. -/
def setOf (text : String) : Except String (List SetPart) :=
  setParts (text.length + 1) (setChars (text.length + 1) text.toList)

/-! ### What a set holds -/

/-- The characters of a part; those of a part that fills are as many as are needed. -/
def SetPart.chosen (needed : Nat) : SetPart → List Char
  | char c       => [c]
  | range a b    => charsOf [(a, b)]
  | classOf _ cs => cs
  | equals c     => [c]
  | fill c n     => List.replicate (if n = 0 then needed else n) c

/-- How many characters parts hold, without those that fill. -/
def fixedSize (parts : List SetPart) : Nat := parts.foldl (fun n p => n + (p.chosen 0).length) 0

/-- The characters of a set that is to be as long as some other. -/
def setFilled (length : Nat) (parts : List SetPart) : List Char :=
  parts.flatMap (SetPart.chosen (length - fixedSize parts))

/-- A part that is a class of letters of one case. -/
def SetPart.isCase : SetPart → Bool
  | classOf name _ => name = "upper" || name = "lower"
  | _              => false

def SetPart.isClass : SetPart → Bool
  | classOf _ _ => true
  | _           => false

def SetPart.isEquals : SetPart → Bool
  | equals _ => true
  | _        => false

def SetPart.isEndless : SetPart → Bool
  | fill _ 0 => true
  | _        => false

/-- The places at which the classes of a case begin. -/
def casePlaces (needed : Nat) (parts : List SetPart) : List Nat :=
  (parts.foldl
    (fun (found, place) p =>
      (if p.isCase then place :: found else found, place + (p.chosen needed).length))
    (([], 0) : List Nat × Nat)).1

/-- What a use of two sets is for. -/
structure SetUse where
  complement  : Bool
  translating : Bool
  truncates   : Bool

/-- What keeps two sets from being used, if anything: the first has some length. -/
def SetUse.fault? (u : SetUse) (first : List SetPart) (length : Nat) (second : Option (List SetPart)) :
    Option String :=
  if first.any (·.isEndless) then some "the [c*] repeat construct may not appear in string1"
  else
    match second with
    | none => none
    | some second =>
      let own := fixedSize second
      let filled := setFilled length second
      let firstPlaces := casePlaces 0 first
      let secondPlaces := casePlaces (length - own) second
      let mixed : Bool := (filled.drop 1).any fun c => some c != filled.head?
      if (second.filter (·.isEndless)).length > 1 then
        some "only one [c*] repeat construct may appear in string2"
      else if !u.translating then
        if second.any (·.isEndless) then
          some "the [c*] construct may appear in string2 only when translating"
        else none
      else if second.any (·.isEquals) then
        some "[=c=] expressions may not appear in string2 when translating"
      else if second.any fun p => p.isClass && !p.isCase then
        some ("when translating, the only character classes that may appear in\n" ++
          "string2 are 'upper' and 'lower'")
      else if !u.complement && secondPlaces.any (!firstPlaces.contains ·) then
        some "misaligned [:upper:] and/or [:lower:] construct"
      else if filled.length < length && !u.truncates && filled.isEmpty then
        some "when not truncating set1, string2 must be non-empty"
      else if filled.length < length && !u.truncates && second.getLast?.any (·.isClass) then
        some ("when translating with string1 longer than string2,\n" ++
          "the latter string must not end with a character class")
      else if u.complement && first.any (·.isClass) && mixed then
        some ("when translating with complemented character classes,\n" ++
          "string2 must map all characters in the domain to one")
      else none

/-! ### Changing text -/

/-- What is kept of each character. -/
abbrev CharTable := Array Char

/-- The table that puts the characters of the second set for those of the first; a later place of the
same character counts. -/
def translation (first second : List Char) : CharTable :=
  let pairs := (first.zip (second ++ List.replicate (first.length - second.length)
    (second.getLastD '\x00')))
  pairs.foldl (fun t (a, b) => t.setIfInBounds a.toNat b) ((List.range 256).map Char.ofNat).toArray

/-- Which characters are in a set. -/
def membership (set : List Char) : Array Bool :=
  set.foldl (fun t c => t.setIfInBounds c.toNat true) (Array.replicate 256 false)

/-- A text in which one character of a set is left of several in a row. -/
def squeeze (set : List Char) (text : List Char) : List Char :=
  let members := membership set
  (text.foldl
    (fun out c => if out.head? = some c && members.getD c.toNat false then out else c :: out)
    []).reverse

/-- Replaces, removes and squeezes characters. -/
def tr : Builtin := fun _ args => trUsage.runInOrder args fun a => do
  let deletes := a.has 'd'
  let squeezes := a.has 's'
  let complement := a.has 'c' || a.has 'C'
  let least := if deletes == squeezes then 2 else 1
  let most := if deletes && !squeezes then 1 else 2
  let refuse (message : String) (more : Option String) : Act Nat := do
    trUsage.complain message
    if let some line := more then complain line
    complain trUsage.hint
    return 1
  match a.rest.drop most with
  | extra :: _ =>
    refuse ("extra operand " ++ cited extra)
      (if a.rest.length = 2 then
        some "Only one string may be given when deleting without squeezing repeats." else none)
  | [] =>
    if a.rest.length < least then
      match a.rest.getLast? with
      | none      => refuse "missing operand" none
      | some last =>
        refuse ("missing operand after " ++ cited last)
          (some (if squeezes then
            "Two strings must be given when both deleting and squeezing repeats."
            else "Two strings must be given when translating."))
    else
      match a.rest.mapM setOf with
      | .error fault =>
        trUsage.complain fault
        return 1
      | .ok sets =>
        let first := sets.headD []
        let second := sets[1]?
        let given := setFilled 0 first
        let set := if complement then (charsOf [('\x00', '\xff')]).filter (!given.contains ·)
          else given
        let use : SetUse := ⟨complement, !deletes && second.isSome, a.has 't'⟩
        match use.fault? first set.length second with
        | some fault =>
          trUsage.complain fault
          return 1
        | none =>
          match ← readAll? 0 with
          | .error fault =>
            trUsage.complain ("read error: " ++ fault.reason)
            return 1
          | .ok text =>
            let text := text.toList
            let members := membership set
            let kept := if deletes then text.filter fun c => !members.getD c.toNat false else text
            let other := second.map (setFilled set.length)
            let out := match other with
              | none => if squeezes && !deletes then squeeze set kept else kept
              | some other =>
                let set := if a.has 't' then set.take other.length else set
                let table := translation set other
                let changed := if deletes then kept else kept.map fun c => table.getD c.toNat c
                if squeezes then squeeze other changed else changed
            printChecked "tr" (String.ofList out)

end BoardConsole.Shell.Utility
