import BoardConsole.Shell.Utility.Cut

/-!
# Shell — Lines that repeat

Lines that are equal, in a sense that the options choose, and follow each other are a group. `uniq`
prints one of each group, or the groups themselves with empty lines between them.
-/

namespace BoardConsole.Shell.Utility

open Act

def uniqUsage : Usage :=
  { program := "uniq", letters := "0123456789cdDif:s:uw:zα::γ::", misuse := 1
    names := [("count", 'c'), ("repeated", 'd'), ("ignore-case", 'i'), ("unique", 'u'),
      ("skip-fields", 'f'), ("skip-chars", 's'), ("check-chars", 'w'), ("zero-terminated", 'z'),
      ("all-repeated", 'α'), ("group", 'γ')] }

/-- A text without some fields at its beginning. -/
def withoutFields : Nat → List Char → List Char
  | 0, cs => cs
  | n + 1, cs =>
    let blank (c : Char) : Bool := c = ' ' || c = '\t' || c = '\n'
    withoutFields n ((cs.dropWhile blank).dropWhile (!blank ·))

/-- What groups are made of the lines with their keys, in order. -/
def groupLines (key : String → List Char) (lines : List String) : List (List String) :=
  let groups := lines.foldl
    (fun (groups : List (List Char × List String)) line =>
      let k := key line
      match groups with
      | (k', group) :: rest => if k = k' then (k', line :: group) :: rest else (k, [line]) :: groups
      | []                  => [(k, [line])]) []
  groups.reverse.map fun (_, group) => group.reverse

/-- Where empty lines stand among groups. -/
inductive Gaps where
  | none
  | before
  | between
  | after
  | both
deriving DecidableEq

/-- The places that a word means, of those that are known. -/
def Gaps.ofWord? (known : List (String × Gaps)) (word : String) : Option Gaps :=
  (known.lookup word).or <|
    match known.filter fun k => k.1.startsWith word with
    | [(_, g)] => some g
    | _        => Option.none

/-- Groups with empty lines among them. -/
def Gaps.place (gaps : Gaps) (groups : List (List String)) : List String :=
  match gaps with
  | .none    => groups.flatten
  | .before  => groups.flatMap ([""] ++ ·)
  | .between => (groups.intersperse [""]).flatten
  | .after   => groups.flatMap (· ++ [""])
  | .both    => if groups.isEmpty then [] else groups.flatMap ([""] ++ ·) ++ [""]

/-- The lines of a group that are shown. -/
def shownOfGroup (a : Arguments) (group : List String) : List String :=
  let all := a.has 'D' || a.has 'α'
  let single := group.length = 1
  let lastShown := !a.has 'u'
  if single then (if a.has 'd' || all then [] else group)
  else if all then (if lastShown then group else group.dropLast)
  else if lastShown then group.take 1 else []

/-- A number at the front of a line, as counts are shown. -/
def countedLine (count : Nat) (line : String) : String :=
  let digits := toString count
  repeated (7 - digits.length) ' ' ++ digits ++ " " ++ line

/-- The words for what is asked of groups. -/
def groupWords : List (String × Gaps) :=
  [("prepend", .before), ("append", .after), ("separate", .between), ("both", .both)]

/-- The words for what is asked of repeated lines. -/
def repeatedWords : List (String × Gaps) :=
  [("none", .none), ("prepend", .before), ("separate", .between)]

/-- Refuses a word, and lists those that are known. -/
def refuseWord (u : Usage) (word option : String) (known : List String) : Act Nat := do
  let kind := if known.any (·.startsWith word) then "ambiguous" else "invalid"
  u.complain (kind ++ " argument " ++ cited word ++ " for " ++ cited option)
  complain "Valid arguments are:"
  for w in known do complain ("  - " ++ cited w)
  complain u.hint
  return u.misuse

/-- The number of fields that are skipped: of the digits among the options, or of the last that says
so. -/
def skippedFields (options : List (Char × String)) : String :=
  (options.foldl
    (fun (text, fresh) (letter, value) =>
      if letter = 'f' then (value, true)
      else if letter.isDigit then ((if fresh then "" else text).push letter, false)
      else (text, fresh)) ("0", true)).1

/-- The number that an option has, or what is said where it has none. -/
def countOption (what text : String) : Except String Nat :=
  let cs := text.toList
  let cs := if cs.head? = some '+' then cs.drop 1 else cs
  if !cs.isEmpty && cs.all Char.isDigit then .ok (Arithmetic.valueOf 10 cs)
  else .error (text ++ ": invalid number of " ++ what)

/-- Prints lines without those that repeat the one before. -/
def uniq : Builtin := fun _ args => uniqUsage.run args fun a => do
  let counts : Except String (Nat × Nat × Option Nat) := do
    let fields ← countOption "fields to skip" (skippedFields a.options)
    let chars ← match a.last? 's' with
      | some s => countOption "bytes to skip" s
      | none   => pure 0
    let width ← match a.last? 'w' with
      | some s => some <$> countOption "bytes to compare" s
      | none   => pure none
    return (fields, chars, width)
  match counts with
  | .error fault =>
    uniqUsage.complain fault
    return 1
  | .ok (fields, chars, width) =>
    let key (line : String) : List Char :=
      let cs := (withoutFields fields line.toList).drop chars
      let cs := match width with | some n => cs.take n | none => cs
      if a.has 'i' then cs.map Char.toLower else cs
    let words := if a.has 'γ' then groupWords else repeatedWords
    let given := (if a.has 'γ' then a.last? 'γ' else a.last? 'α').getD ""
    let word := if given != "" then given else if a.has 'γ' then "separate" else "none"
    let option := if a.has 'γ' then "--group" else "--all-repeated"
    match Gaps.ofWord? words word with
    | none => refuseWord uniqUsage word option (words.map (·.1))
    | some gaps =>
      if let extra :: _ := a.rest.drop 2 then
        return ← uniqUsage.refuse ("extra operand " ++ cited extra)
      let all := a.has 'D' || a.has 'α'
      if a.has 'γ' && (all || ['c', 'd', 'u'].any a.has) then
        return ← uniqUsage.refuse "--group is mutually exclusive with -c/-d/-D/-u"
      if all && a.has 'c' then
        return ← uniqUsage.refuse
          "printing all duplicated lines and repeat counts is meaningless"
      match ← readInput (a.rest.headD "-") with
      | .error reason =>
        let name := a.rest.headD ""
        let what := if reason = PathFault.isADirectory.reason then "error reading " ++ quoted name
          else shownName name
        uniqUsage.complain (what ++ ": " ++ reason)
        return 1
      | .ok text =>
        let ending := lineEnd a
        let groups := groupLines key (linesUpTo ending text)
        let shown := if a.has 'γ' then groups else
          groups.map fun group =>
            let lines := shownOfGroup a group
            if a.has 'c' then lines.map (countedLine group.length) else lines
        let out := joinLines ending (gaps.place (shown.filter fun g => !g.isEmpty))
        match a.rest.drop 1 with
        | [] | "-" :: _ => printChecked "uniq" out
        | name :: _ =>
          match ← writeFile name out false with
          | .ok () => return 0
          | .error reason =>
            uniqUsage.complain (shownName name ++ ": " ++ reason)
            return 1

end BoardConsole.Shell.Utility
