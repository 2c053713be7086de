import BoardConsole.Shell.Utility.Scan.Value
import BoardConsole.Shell.Utility.Scan.Pattern
import BoardConsole.Shell.Utility.Scan.Tree

/-!
# Shell — Tokens of scanning programs

The text of a program as tokens. What a slash means is told by the token before it: behind something
that has a value it divides, elsewhere it begins a regular expression. Ends of lines are left out where
a statement cannot end.
-/

namespace BoardConsole.Shell.Scan

/-- A token. -/
inductive Token where
  | number (x : Float) (spelled : String)
  | text (s : String)
  | regex (s : String)
  | name (s : String)
  /-- A name with a parenthesis behind it. -/
  | called (s : String)
  | keyword (s : String)
  | known (f : Known) (s : String)
  | sign (s : String)
  | lineEnd
  /-- Something that is no token. -/
  | fault (message : String)

/-- What a token is called in messages. -/
def Token.shown : Token → String
  | number _ s | text s | name s | called s | keyword s | known _ s | sign s => s
  | regex s => s
  | lineEnd => "end of line"
  | fault _ => "end of file"

/-- A token and the line where it stands. -/
structure Lexeme where
  token : Token
  line  : Nat

/-! ### Tables -/

def keywords : List String :=
  ["BEGIN", "END", "break", "continue", "delete", "do", "else", "exit", "for", "function", "getline",
   "gsub", "if", "in", "next", "nextfile", "print", "printf", "return", "split", "sub", "while"]

/-- The functions that every program has, by their names, with the least and the greatest number of
arguments. -/
def knownFunctions : List (String × Known × Nat × Nat) :=
  [("length", .length, 0, 1), ("index", .index, 2, 2), ("substr", .substr, 2, 3),
   ("sprintf", .sprintf, 1, 255), ("sin", .sin, 1, 1), ("cos", .cos, 1, 1), ("atan2", .atan2, 2, 2),
   ("exp", .exp, 1, 1), ("log", .log, 1, 1), ("sqrt", .sqrt, 1, 1), ("int", .int, 1, 1),
   ("rand", .rand, 0, 0), ("srand", .srand, 0, 1), ("close", .close, 1, 1),
   ("system", .system, 1, 1), ("toupper", .toupper, 1, 1), ("tolower", .tolower, 1, 1),
   ("fflush", .fflush, 0, 1), ("match", .find, 2, 2), ("systime", .systime, 0, 0),
   ("mktime", .mktime, 1, 2), ("strftime", .strftime, 0, 3)]

/-- Signs, the longer ones first. -/
def signTexts : List String :=
  ["&&", "||", "==", "!=", "<=", ">=", ">>", "!~", "++", "--", "+=", "-=", "*=", "/=", "%=", "^=",
   "\x7b", "\x7d", "(", ")", "[", "]", ";", ",", "+", "-", "*", "/", "%", "^", "!", "<", ">", "|",
   "?", ":", "~", "$", "="]

/-- Whether a slash behind a token divides. -/
def Token.hasValue : Token → Bool
  | number _ _ | text _ | regex _ | name _ => true
  | keyword s => s = "getline"
  | sign s    => s = ")" || s = "]" || s = "++" || s = "--"
  | _         => false

/-- Whether the end of a line behind a token is left out. -/
def Token.goesOn : Token → Bool
  | sign s    => ["\x7b", "\x7d", ",", "&&", "||", ";"].contains s
  | keyword s => s = "else" || s = "do"
  | lineEnd   => true
  | _         => false

/-! ### Texts -/

/-- The text up to a closing quote, and what follows it. -/
def takeText : (fuel : Nat) → List Char → (taken : List Char) → Option (List Char × List Char)
  | 0, _, _ | _, [], _ => none
  | fuel + 1, c :: cs, taken =>
    match c, cs with
    | '"', cs          => some (taken.reverse, cs)
    | '\n', _          => none
    | '\\', '\n' :: cs => takeText fuel cs taken
    | '\\', d :: cs    => takeText fuel cs (d :: '\\' :: taken)
    | c, cs            => takeText fuel cs (c :: taken)

/-- The regular expression up to a closing slash, and what follows it. -/
def takeRegex : (fuel : Nat) → (inSet : Bool) → List Char → (taken : List Char) →
    Option (List Char × List Char)
  | 0, _, _, _ | _, _, [], _ => none
  | fuel + 1, inSet, c :: cs, taken =>
    match c, cs with
    | '\n', _         => none
    | '\\', '/' :: cs => takeRegex fuel inSet cs ('/' :: taken)
    | '\\', d :: cs   => takeRegex fuel inSet cs (d :: '\\' :: taken)
    | '/', cs         => if inSet then takeRegex fuel inSet cs ('/' :: taken) else some (taken.reverse, cs)
    | '[', cs =>
      if inSet then
        match cs with
        | ':' :: _ =>
          let name := (cs.drop 1).takeWhile Char.isAlpha
          match cs.drop (name.length + 1) with
          | ':' :: ']' :: rest =>
            takeRegex fuel true rest (']' :: ':' :: name.reverse ++ ':' :: '[' :: taken)
          | _ => takeRegex fuel true cs ('[' :: taken)
        | _ => takeRegex fuel true cs ('[' :: taken)
      else
        let first := match cs with
          | '^' :: ']' :: _ => ['^', ']']
          | '^' :: _        => ['^']
          | ']' :: _        => [']']
          | _               => []
        takeRegex fuel true (cs.drop first.length) (first.reverse ++ '[' :: taken)
    | ']', cs => takeRegex fuel false cs (']' :: taken)
    | c, cs   => takeRegex fuel inSet cs (c :: taken)

/-- The number that a text begins with, its spelling, and what follows it. -/
def takeNumber (cs : List Char) : Option (Float × String × List Char) :=
  (Spelled.readDecimal? cs).map fun (spelled, rest) =>
    (spelled.toFloat, String.ofList (cs.take (cs.length - rest.length)), rest)

/-- The first line of a text, as messages about texts without an end show it. -/
def startOf (cs : List Char) : String :=
  String.ofList ((cs.takeWhile (· != '\n')).take 16) ++ " ..."

/-! ### Tokens -/

/-- The token of a word, with what follows it. -/
def wordToken (word : String) (rest : List Char) : Token :=
  if keywords.contains word then .keyword word
  else
    match knownFunctions.lookup word with
    | some (f, _) => .known f word
    | none        => if rest.head? = some '(' then .called word else .name word

/-- The tokens of a text behind a token. -/
def tokensOf : (fuel : Nat) → (before : Option Token) → (line : Nat) → List Char → List Lexeme
  | 0, _, _, _ => []
  | fuel + 1, before, line, cs =>
    let next (token : Token) (rest : List Char) : List Lexeme :=
      ⟨token, line⟩ :: tokensOf fuel (some token) line rest
    match cs with
    | [] => [⟨.lineEnd, line⟩]
    | ' ' :: rest | '\t' :: rest | '\r' :: rest | '\x0b' :: rest | '\x0c' :: rest =>
      tokensOf fuel before line rest
    | '\\' :: '\n' :: rest | '\\' :: '\r' :: '\n' :: rest => tokensOf fuel before (line + 1) rest
    | '#' :: rest => tokensOf fuel before line (rest.dropWhile (· != '\n'))
    | '\n' :: rest =>
      if before.all Token.goesOn then tokensOf fuel before (line + 1) rest
      else ⟨.lineEnd, line⟩ :: tokensOf fuel (some .lineEnd) (line + 1) rest
    | '"' :: rest =>
      match takeText (rest.length + 1) rest [] with
      | some (text, after) =>
        let token := Token.text (escaped (String.ofList text))
        let lines := (rest.take (rest.length - after.length)).count '\n'
        ⟨token, line⟩ :: tokensOf fuel (some token) (line + lines) after
      | none => [⟨.fault ("runaway string constant \"" ++ startOf rest), line⟩]
    | c :: rest =>
      if c.isDigit || (c = '.' && rest.head?.any Char.isDigit) then
        match takeNumber cs with
        | some (x, spelled, rest) => next (.number x spelled) rest
        | none                    => [⟨.fault "bad number", line⟩]
      else if isNameStart c then
        let word := cs.takeWhile isNameChar
        let rest := cs.drop word.length
        next (wordToken (String.ofList word) rest) rest
      else if c = '/' && !before.any Token.hasValue then
        match takeRegex (rest.length + 1) false rest [] with
        | some (text, after) => next (.regex (String.ofList text)) after
        | none => [⟨.fault ("runaway regular expression /" ++ startOf rest), line⟩]
      else
        match signTexts.find? fun s => s.toList.isPrefixOf cs with
        | some s => next (.sign s) (cs.drop s.length)
        | none =>
          if c = '&' then [⟨.fault "syntax error at or near &", line⟩]
          else [⟨.fault ("unexpected character '" ++ String.ofList [c] ++ "'"), line⟩]

/-- The tokens of a text. -/
def tokens (text : String) : List Lexeme := tokensOf (text.length + 1) none 1 text.toList

end BoardConsole.Shell.Scan
