import BoardConsole.Shell.Format
import BoardConsole.Shell.Utility.Date
import BoardConsole.Shell.Utility.Entries

/-!
# Shell — The status of files

`stat` shows what is known of files by a format.
-/

namespace BoardConsole.Shell.Utility

open Act

def statUsage : Usage :=
  { program := "stat", letters := "Lc:ftπ:χ:", misuse := 1
    names := [("format", 'c'), ("dereference", 'L'), ("file-system", 'f'), ("printf", 'π'),
      ("terse", 't'), ("cached", 'χ')] }

/-- What stands between a percent sign and the letter of a field. -/
structure FieldLayout where
  flags     : List Char
  width     : Nat
  /-- The precision; nothing inside stands for a point alone. -/
  precision : Option (Option Nat)

/-- The layout for a text or a number; flags that make no sense for it do not count. -/
def FieldLayout.layout (f : FieldLayout) (zero : Bool) : Format.Layout :=
  ⟨f.flags.contains '-', false, false, f.flags.contains '#', zero && f.flags.contains '0', f.width,
    f.precision.map (·.getD 0)⟩

def FieldLayout.text (f : FieldLayout) (s : String) : String := (f.layout false).text s

def FieldLayout.number (f : FieldLayout) (n : Nat) : String := (f.layout true).unsigned 'u' n

/-- A time in seconds, with as many places as the precision says. -/
def FieldLayout.seconds (f : FieldLayout) (time : Int) : String :=
  let whole := time / nanosInSecond
  let nano := (time - whole * nanosInSecond).toNat
  let places := match f.precision with
    | none          => 0
    | some none     => 9
    | some (some n) => n
  let digits := toString (nano + 1000000000)
  let fraction := ((digits.toList.drop 1) ++ List.replicate places '0').take places
  let text := (if whole < 0 then "-" else "") ++ toString whole.natAbs ++
    (if places = 0 then "" else "." ++ String.ofList fraction)
  let l := { f.layout true with precision := none }
  l.number "" text l.zero

/-- A moment as a status shows it. -/
def statusTime : String := "%Y-%m-%d %H:%M:%S.%N %z"

/-- A field of a format: what a letter stands for. -/
def Entry.field (e : Entry) (zone : Zone) (f : FieldLayout) (always : Bool) (letter : Char) : String :=
  let (major, minor) := deviceNumbers e.path
  let quote (s : String) : String := Quoting.apply (.shell always true) s
  match letter with
  | 'n' => f.text e.name
  | 'N' => f.text (quote e.name ++ (if e.kind = .link then " -> " ++ quote e.target else ""))
  | 's' => f.number e.size
  | 'a' => (f.layout true).unsigned 'o' e.mode
  | 'A' => f.text e.permissions
  | 'F' => f.text (kindName e.size e.kind)
  | 'f' => (f.layout true).unsigned 'x' (kindBits e.kind + e.mode)
  | 'h' => f.number e.links
  | 'i' => f.number e.number
  | 'b' => f.number e.blocks
  | 'B' => f.number 512
  | 'o' => f.number 4096
  | 'd' => f.number 65024
  | 'D' => (f.layout true).unsigned 'x' 65024
  | 'm' => f.text "/"
  | 'C' => f.text "?"
  | 't' => (f.layout true).unsigned 'x' major
  | 'T' => (f.layout true).unsigned 'x' minor
  | 'r' => f.number (major * 256 + minor)
  | 'R' => (f.layout true).unsigned 'x' (major * 256 + minor)
  | 'u' | 'g' => f.number 0
  | 'U' | 'G' => f.text "root"
  | 'x' | 'y' | 'z' | 'w' => f.text ((Moment.ofNanos zone e.time).format statusTime)
  | 'X' | 'Y' | 'Z' | 'W' => f.seconds e.time
  | '%' => "%"
  | _   => "?"

/-- A field of the file system. -/
def systemField (name : String) (f : FieldLayout) (letter : Char) : String :=
  match letter with
  | 'n' => f.text name
  | 'i' => f.text "0"
  | 'l' => f.number 255
  | 't' => (f.layout true).unsigned 'x' 0xef53
  | 'T' => f.text "ext2/ext3"
  | 's' | 'S' => f.number 4096
  | 'b' | 'f' | 'a' | 'c' | 'd' => f.number 0
  | '%' => "%"
  | _   => "?"

/-- The character of an escape in a format, and what follows it; nothing where the escape means
nothing. -/
def formatEscape? (cs : List Char) : Option (Char × List Char) :=
  match cs with
  | [] => none
  | 'x' :: rest =>
    let digits := (rest.take 2).takeWhile fun c => (Arithmetic.digit? 16 c).isSome
    if digits.isEmpty then none
    else some (Char.ofNat (Arithmetic.valueOf 16 digits), rest.drop digits.length)
  | c :: rest =>
    if Format.isOctal c then
      let digits := Format.octalDigits cs
      some (Format.octal digits, cs.drop digits.length)
    else if c = '"' then some ('"', rest)
    else (Format.letter? c).map (·, rest)

/-- A fault of a format. -/
inductive FieldFault where
  | escape (letter : Char)
  | endsInBackslash
  /-- No letter follows, or a percent sign follows what only a field has; nothing comes after it. -/
  | directive (text : String)

def FieldFault.message : FieldFault → String
  | escape letter   => "warning: unrecognized escape '\\" ++ String.ofList [letter] ++ "'"
  | endsInBackslash => "warning: backslash at end of format"
  | directive text  => cited text ++ ": invalid directive"

/-- A format filled in, and its faults. -/
def fillFormat (escapes : Bool) (field : FieldLayout → Char → String) : (fuel : Nat) → List Char →
    String × List FieldFault
  | 0, _ | _, [] => ("", [])
  | fuel + 1, c :: cs =>
    let add (text : String) (rest : List Char) : String × List FieldFault :=
      let (more, faults) := fillFormat escapes field fuel rest
      (text ++ more, faults)
    if c = '\\' && escapes then
      match formatEscape? cs, cs with
      | some (d, rest), _ => add (String.ofList [d]) rest
      | none, []          => ("\\", [.endsInBackslash])
      | none, d :: rest   =>
        let (more, faults) := fillFormat escapes field fuel rest
        (String.ofList [d] ++ more, .escape d :: faults)
    else if c != '%' then add (String.ofList [c]) cs
    else
      let flags := cs.takeWhile fun c => "'+- #0I".toList.contains c
      let rest := cs.drop flags.length
      let width := rest.takeWhile Char.isDigit
      let rest := rest.drop width.length
      let (precision, rest) := match rest with
        | '.' :: more =>
          let digits := more.takeWhile Char.isDigit
          (some (if digits.isEmpty then none else some (Arithmetic.valueOf 10 digits)),
            more.drop digits.length)
        | _ => (none, rest)
      let f : FieldLayout := ⟨flags, Arithmetic.valueOf 10 width, precision⟩
      let isPlain : Bool := rest.length = cs.length
      let written (last : List Char) : FieldFault :=
        .directive (String.ofList ('%' :: cs.take (cs.length - rest.length) ++ last))
      match rest with
      | []          => if isPlain then ("%", []) else ("", [written []])
      | '%' :: rest => if isPlain then add "%" rest else ("", [written ['%']])
      | 'H' :: 'd' :: rest => add (f.number 254) rest
      | 'L' :: 'd' :: rest => add (f.number 0) rest
      | 'H' :: 'r' :: rest | 'L' :: 'r' :: rest => add (field f 'r') rest
      | d :: rest => add (field f d) rest

/-- The usual format. -/
def statusFormat (isDevice : Bool) : String :=
  "  File: %N\n  Size: %-10s\tBlocks: %-10b IO Block: %-6o %F\nDevice: %Hd,%Ld\tInode: %-10i  Links: %-5h" ++
    (if isDevice then " Device type: %t,%T" else "") ++
    "\nAccess: (%04a/%10.10A)  Uid: (%5u/%8U)   Gid: (%5g/%8G)\nAccess: %x\nModify: %y\nChange: %z\n" ++
    " Birth: %w\n"

/-- The usual format in one line. -/
def terseFormat : String := "%n %s %b %f %u %g %D %i %h %t %T %X %Y %Z %W %o\n"

/-- Prints what is known of files. -/
def stat : Builtin := fun _ args => statUsage.run args fun a => do
  if a.rest.isEmpty then return ← statUsage.refuse "missing operand"
  let zone ← currentZone
  let given := (a.options.filter fun o => o.1 = 'c' || o.1 = 'π').getLast?
  forAll a.rest fun name => do
    let found ←
      if name = "-" then pure (.ok (.file, []))
      else look (a.has 'L' || a.has 'f') name
    match found with
    | .error reason =>
      let action := if a.has 'f' then "cannot read file system information for " else "cannot statx "
      statUsage.complain (action ++ quoted name ++ ": " ++ reason)
      return false
    | .ok (kind, path) =>
      let e ← entryOf name kind path
      let (escapes, format) := match given with
        | some ('π', format) => (true, format)
        | some (_, format)   => (false, format)
        | none               =>
          (false, if a.has 't' then terseFormat else statusFormat (decide (kind = Kind.device)))
      let field (f : FieldLayout) (letter : Char) : String :=
        if a.has 'f' then systemField name f letter
        else Entry.field e zone f given.isSome letter
      let (text, faults) := fillFormat escapes field (format.length + 1) format.toList
      print text
      let mut isWhole := true
      for fault in faults do
        statUsage.complain fault.message
        if let .directive _ := fault then isWhole := false
      if isWhole && given.any (·.1 = 'c') then print "\n"
      return isWhole

end BoardConsole.Shell.Utility
