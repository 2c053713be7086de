import BoardConsole.Shell.Arithmetic
import BoardConsole.Shell.Pattern

/-!
# Shell — Expansion

What a word comes to when it is used. A word is first made into stretches: characters that remember
whether they were quoted, and what may happen to them. Out of stretches come fields (which are split
and matched against the names of files), one text, or a pattern. `Fields.split` is the rule of
splitting, without any state.
-/

namespace BoardConsole.Shell

/-- A part of an expanded word. -/
inductive Glyph where
  | char (c : Char) (quoted : Bool)
  /-- Where quotes were: what has it is a field even if it has nothing else. -/
  | mark
  /-- The boundary of two arguments. -/
  | cut
deriving DecidableEq, Repr

/-- Where a stretch may be split into fields. -/
inductive Splitting where
  | never
  /-- At separators and between arguments. -/
  | atSeparators
  /-- Between arguments only. -/
  | atCuts
deriving DecidableEq, Repr

/-- A part of an expanded word that may be split in one way. -/
structure Stretch where
  glyphs    : List Glyph
  splitting : Splitting
deriving DecidableEq, Repr

namespace Stretch

/-- A text that was put in; unless it is quoted it may be split. -/
def inserted (s : String) (quoted : Bool) : Stretch :=
  ⟨s.toList.map (.char · quoted), if quoted then .never else .atSeparators⟩

/-- The characters of stretches and whether they were quoted. -/
def quotables (stretches : List Stretch) : List Quotable :=
  (stretches.flatMap (·.glyphs)).filterMap fun
    | .char c quoted => some (c, quoted)
    | .mark          => none
    | .cut           => some (' ', false)

/-- The text of stretches. -/
def text (stretches : List Stretch) : String :=
  String.ofList ((quotables stretches).map (·.1))

end Stretch

/-! ### Fields -/

namespace Fields

/-- What separates fields. -/
structure Separators where
  characters : List Char

/-- A separator of which several count as one. -/
def isBlank : Glyph → Bool
  | .char c _ => c == ' ' || c == '\t' || c == '\n'
  | .mark     => false
  | .cut      => true

/-- Whether a part of a word separates fields. -/
def Separators.has (s : Separators) : Glyph → Bool
  | .char c _ => s.characters.contains c
  | .mark     => false
  | .cut      => true

/-- The fields so far and the one that grows, all of them last first. -/
structure Growing where
  fields  : List (List Glyph)
  current : List Glyph

/-- Ends the field that grows. -/
def Growing.close (g : Growing) : Growing := ⟨g.current.reverse :: g.fields, []⟩

/-- Passes over the separators after the one that ended a field: blanks, and one separator that is
none if all before it were. -/
def passSeparators (s : Separators) : (blanks : Bool) → List Glyph → List Glyph
  | _, [] => []
  | blanks, g :: rest =>
    if !s.has g then g :: rest
    else if isBlank g then passSeparators s blanks rest
    else if blanks then passSeparators s false rest
    else g :: rest

theorem length_passSeparators (s : Separators) (blanks : Bool) (gs : List Glyph) :
    (passSeparators s blanks gs).length ≤ gs.length := by
  induction gs generalizing blanks with
  | nil => simp [passSeparators]
  | cons g rest ih =>
    rw [passSeparators]
    split
    · simp
    · split
      · exact Nat.le_succ_of_le (ih _)
      · split
        · exact Nat.le_succ_of_le (ih _)
        · simp

/-- Splits a stretch at separators. -/
def splitStretch (s : Separators) (g : Growing) : List Glyph → Growing
  | [] => g
  | x :: rest =>
    if !s.has x then splitStretch s { g with current := x :: g.current } rest
    else if isBlank x && g.current.isEmpty then splitStretch s g rest
    else splitStretch s g.close (passSeparators s (isBlank x) rest)
termination_by gs => gs.length
decreasing_by
  · simp
  · simp
  · exact Nat.lt_succ_of_le (length_passSeparators s _ rest)

/-- Adds a stretch. -/
def add (s : Separators) (g : Growing) (stretch : Stretch) : Growing :=
  match stretch.splitting with
  | .never        => { g with current := stretch.glyphs.reverse ++ g.current }
  | .atSeparators => splitStretch s g stretch.glyphs
  | .atCuts =>
    stretch.glyphs.foldl (fun g x =>
      match x with
      | .cut => g.close
      | x    => { g with current := x :: g.current }) g

/-- The fields of stretches. The last one counts if it is not empty or the last of several
arguments. -/
def split (s : Separators) (stretches : List Stretch) : List (List Glyph) :=
  let g := stretches.foldl (add s) ⟨[], []⟩
  let lastKind := (stretches.filter (·.splitting != .never)).getLast?.map (·.splitting)
  let counts := !g.current.isEmpty || lastKind = some .atCuts
  (if counts then g.close else g).fields.reverse

end Fields

/-! ### Parameters -/

/-- What a parameter holds. -/
inductive Held where
  | text (s : String)
  | arguments (all : List String)

/-- The letters of the options in the order in which they are shown. -/
def shownOptions : List Char :=
  ['u', 'b', 'a', 'C', 'E', 'V', 'v', 'x', 'n', 's', 'm', 'i', 'I', 'f', 'e']

namespace Act

/-- What a parameter holds, if it is set. -/
def parameter? (name : String) : Act (Option Held) := do
  let p ← process
  let text (s : String) : Act (Option Held) := return some (.text s)
  match name with
  | "@" | "*" => return some (.arguments p.arguments)
  | "#"       => text (toString p.arguments.length)
  | "?"       => text (toString p.status)
  | "$"       => text (toString p.shell)
  | "!"       => return p.lastBackground.map fun n => .text (toString n)
  | "-"       => text (String.ofList (shownOptions.filter p.options.contains))
  | "0"       => text p.name
  | name =>
    match name.toNat? with
    | some 0       => text p.name
    | some (n + 1) => return (p.arguments[n]?).map .text
    | none         => return (← value? name).map .text

/-- The separators of fields. -/
def separators : Act Fields.Separators := do
  return ⟨((← value? "IFS").getD " \t\n").toList⟩

/-- What stands between arguments that are joined. -/
def joint : Act String := do
  match ← value? "IFS" with
  | none   => return " "
  | some s => return String.ofList (s.toList.take 1)

/-- Arguments joined to one text. -/
def joined (all : List String) : Act String := do
  return (← joint).intercalate all

/-- The text of what a parameter holds. -/
def heldText : Held → Act String
  | .text s        => return s
  | .arguments all => joined all

end Act

/-! ### Stretches -/

/-- How a word is used. -/
structure Use where
  /-- Whether it becomes fields. -/
  fields  : Bool
  /-- Whether its unquoted characters may be split too, as those that are put in. -/
  splits  : Bool

namespace Expand

/-- A character that ends the name of a user after a tilde. -/
def endsUser (afterColons : Bool) (c : Char) : Bool := c == '/' || (afterColons && c == ':')

/-- The directory of a user; that of the shell's own user for the empty name. -/
def home? (user : String) : Act (Option String) := do
  if user = "" then Act.value? "HOME"
  else return if user = "root" then some "/root" else none

/-- Puts the directories of users in the places of tildes at the beginning, and of those after
colons where that is asked for. -/
def tildes (afterColons : Bool) : (fuel : Nat) → (atStart : Bool) → Word → Act Word
  | 0, _, w => return w
  | _, _, [] => return []
  | fuel + 1, atStart, piece :: rest => do
    match atStart, piece.plain? with
    | true, some '~' =>
      let name := rest.takeWhile fun p =>
        match p.plain? with
        | some c => !endsUser afterColons c
        | none   => false
      let after := rest.drop name.length
      let ends := match after with | [] => true | p :: _ => p.plain?.isSome
      match ends, plain? name with
      | true, some user =>
        match ← home? user with
        | some directory =>
          return literal directory true ++ (← tildes afterColons fuel false after)
        | none => return piece :: (← tildes afterColons fuel false rest)
      | _, _ => return piece :: (← tildes afterColons fuel false rest)
    | _, c => return piece :: (← tildes afterColons fuel (afterColons && c = some ':') rest)

/-- The stretch of arguments. -/
def argumentStretch (use : Use) (star quoted : Bool) (all : List String) : Act (List Stretch) := do
  let chars (s : String) : List Glyph := s.toList.map (.char · quoted)
  if use.fields && !(star && quoted) then
    if all.isEmpty then return []
    let glyphs := List.intercalate [Glyph.cut] (all.map chars)
    return [⟨glyphs, if quoted then .atCuts else .atSeparators⟩]
  else return [.inserted (← Act.joined all) quoted]

/-- The stretch of what a parameter holds. -/
def heldStretch (use : Use) (name : String) (quoted : Bool) : Held → Act (List Stretch)
  | .text s        => return [.inserted s quoted]
  | .arguments all => argumentStretch use (name = "*") quoted all

/-- Whether what a parameter holds is no text at all. -/
def isNull : Held → Bool
  | .text s        => s == ""
  | .arguments all => all.all (· == "") && all.length ≤ 1

/-- Whether a parameter has to be given something else. -/
def isLacking (orNull : Bool) : Option Held → Bool
  | none      => true
  | some held => orNull && isNull held

/-- A fault unless the parameter is set or may be unset. -/
def checkSet (name : String) (held : Option Held) : Act Unit := do
  if held.isNone && (← Act.isSet 'u') then Act.fail (name ++ ": parameter not set")

mutual

/-- The stretches of a word. Commands in it are run by `capture`. -/
def stretches (capture : Command → Act String) : (fuel : Nat) → Use → Word → Act (List Stretch)
  | 0, _, _ => return []
  | fuel + 1, use, w => do
    let parts ← w.mapM fun piece =>
      match piece with
      | .char c quoted =>
        let splitting := if use.splits && !quoted then Splitting.atSeparators else .never
        pure [⟨[.char c quoted], splitting⟩]
      | .quotes => pure [⟨[.mark], .never⟩]
      | .output command quoted => return [.inserted (← capture command) quoted]
      | .sum expression quoted => do
        let text := Stretch.text (← stretches capture fuel ⟨false, false⟩ expression)
        return [.inserted (toString (← Arithmetic.evaluate text)) quoted]
      | .parameter name change word quoted => parameter capture fuel use name change word quoted
    return parts.flatten

/-- The stretches of a parameter. -/
def parameter (capture : Command → Act String) :
    (fuel : Nat) → Use → String → Change → Word → Bool → Act (List Stretch)
  | 0, _, _, _, _, _ => return []
  | fuel + 1, use, name, change, word, quoted => do
    let held ← Act.parameter? name
    let stretch : Act (List Stretch) := do
      match held with
      | some h => heldStretch use name quoted h
      | none   => return [.inserted "" quoted]
    let instead : Act (List Stretch) := do
      let w ← if quoted then pure word else tildes false (word.length + 1) true word
      stretches capture fuel ⟨use.fields, use.fields && !quoted⟩ w
    let wordText : Act String := do
      let w ← if quoted then pure word else tildes false (word.length + 1) true word
      return Stretch.text (← stretches capture fuel ⟨false, false⟩ w)
    let trimmed (trim : List Mark → List Char → List Char) : Act (List Stretch) := do
      checkSet name held
      match held with
      | none => return [.inserted "" quoted]
      | some h =>
        let text ← Act.heldText h
        let pattern := Stretch.quotables (← stretches capture fuel ⟨false, false⟩ word)
        return [.inserted (String.ofList (trim (Pattern.ofText pattern) text.toList)) quoted]
    match change with
    | .keep =>
      checkSet name held
      stretch
    | .length =>
      checkSet name held
      let n :=
        match held with
        | some (.text s)        => s.length
        | some (.arguments all) => (" ".intercalate all).length
        | none                  => 0
      return [.inserted (toString n) quoted]
    | .default orNull => if isLacking orNull held then instead else stretch
    | .replace orNull => if isLacking orNull held then return [.inserted "" quoted] else instead
    | .assign orNull =>
      if isLacking orNull held then
        let value ← wordText
        if !isName name then Act.fail (name ++ ": bad variable name")
        Act.assign name value
        return [.inserted value quoted]
      else stretch
    | .fail orNull =>
      if isLacking orNull held then
        let message ← wordText
        let usual := if orNull then "parameter not set or null" else "parameter not set"
        Act.fail (name ++ ": " ++ (if word.isEmpty then usual else message))
      else stretch
    | .trimStart longest => trimmed (Pattern.trimStart longest)
    | .trimEnd longest   => trimmed (Pattern.trimEnd longest)
    | .unknown           => Act.fail "Bad substitution"

end

/-- How deep words are expanded inside words. -/
def greatestDepth : Nat := 1000

/-! ### Names of files -/

/-- A pattern for a path: its components, each with the slashes after it. -/
def pathParts : (fuel : Nat) → List Quotable → List (List Quotable × Nat)
  | 0, _ => []
  | _, [] => []
  | fuel + 1, text =>
    let part := text.takeWhile (·.1 != '/')
    let rest := text.drop part.length
    let slashes := (rest.takeWhile (·.1 = '/')).length
    (part, slashes) :: pathParts fuel (rest.drop slashes)

/-- The names that match the rest of a pattern for a path, after a beginning of the path. -/
def namesMatching (path : String) : List (List Quotable × Nat) → Act (List String)
  | [] => return if (← Act.kind? false path).isSome then [path] else []
  | (part, slashes) :: rest => do
    let slash := repeated slashes '/'
    let pattern := Pattern.ofText part
    if !Pattern.isPattern pattern then
      let text := String.ofList ((Pattern.unescape part).map (·.1))
      namesMatching (path ++ text ++ slash) rest
    else
      match ← Act.kind? true (if path = "" then "." else path) with
      | some (.directory, directory) =>
        let dotted := match pattern with | .char '.' :: _ => true | _ => false
        let all := (← Act.namesIn directory) ++ [".", ".."]
        let found := all.filter fun name =>
          (dotted || !name.startsWith ".") && Pattern.isMatch pattern name.toList
        return (← found.mapM fun name => namesMatching (path ++ name ++ slash) rest).flatten
      | _ => return []

/-- The names of files that a field stands for, or else the field itself. -/
def fieldNames (field : List Glyph) : Act (List String) := do
  let text := Stretch.quotables [⟨field, .never⟩]
  let spelled := [String.ofList (text.map (·.1))]
  if (← Act.isSet 'f') || !Pattern.isPattern (Pattern.ofText text) then return spelled
  match ← namesMatching "" (pathParts (text.length + 1) text) with
  | []    => return spelled
  | names => return names.mergeSort (· ≤ ·)

/-! ### Uses of a word -/

/-- The fields of a word. -/
def fields (capture : Command → Act String) (w : Word) : Act (List String) := do
  match plain? w with
  | some s =>
    -- Most words hold nothing to expand.
    if s.all fun c => isNameChar c || c == '-' || c == '.' || c == '/' then return [s]
  | none => pure ()
  let w ← tildes false (w.length + 1) true w
  let parts ← stretches capture greatestDepth ⟨true, false⟩ w
  return (← (Fields.split (← Act.separators) parts).mapM fieldNames).flatten

/-- The text of a word. -/
def text (capture : Command → Act String) (w : Word) : Act String := do
  let w ← tildes false (w.length + 1) true w
  return Stretch.text (← stretches capture greatestDepth ⟨false, false⟩ w)

/-- The text of a word that is assigned. -/
def value (capture : Command → Act String) (w : Word) : Act String := do
  let w ← tildes true (w.length + 1) true w
  return Stretch.text (← stretches capture greatestDepth ⟨false, false⟩ w)

/-- The text of a document. -/
def document (capture : Command → Act String) (w : Word) : Act String := do
  return Stretch.text (← stretches capture greatestDepth ⟨false, false⟩ w)

/-- The pattern of a word. -/
def pattern (capture : Command → Act String) (w : Word) : Act (List Mark) := do
  let w ← tildes false (w.length + 1) true w
  return Pattern.ofText (Stretch.quotables (← stretches capture greatestDepth ⟨false, false⟩ w))

end Expand

end BoardConsole.Shell
