import BoardConsole.Shell.Utility.Scan.Token

/-!
# Shell — Reading scanning programs

Reads a program from its tokens. Operators bind in this order, the loosest first: assignment, choice,
`||`, `&&`, `in`, fitting, comparison, joining, sums, products, signs, reading from a command, powers.
-/

namespace BoardConsole.Shell.Scan

/-! ### State -/

/-- A function as far as it is known. -/
structure Draft where
  name    : String
  routine : Option Routine
  /-- The calls of it: how many arguments they have, and where. -/
  calls   : List (Nat × Nat)

/-- What has been read, and what is left. -/
structure Reading where
  rest     : List Lexeme
  /-- The line of the last token. -/
  line     : Nat
  names    : Array String
  drafts   : Array Draft
  /-- The parameters of the function that is read. -/
  own      : Option (List String)
  /-- How many loops are around. -/
  loops    : Nat
  /-- Whether statements may go on to the next record. -/
  mayGo    : Bool
  ranges   : Nat

/-- What is wrong with a program: a message, and the line. -/
structure ReadFault where
  message : String
  line    : Nat

/-- What reads a program. -/
abbrev Reader := StateT Reading (Except ReadFault)

/-- Gives up. -/
def refuse {α : Type} (message : String) : Reader α := do throw ⟨message, (← get).line⟩

/-- The next token, which stays. -/
def peek : Reader Token := do
  match (← get).rest with
  | l :: _ => return l.token
  | []     => return .lineEnd

/-- Goes past the next token. -/
def skip : Reader Unit :=
  modify fun s =>
    match s.rest with
    | l :: rest => { s with rest, line := l.line }
    | []        => s

/-- Refuses the end of the text in a block. -/
def refuseEnd {α : Type} : Reader α := do
  let s ← get
  let last := (s.rest.head?.map (·.line)).getD s.line
  throw ⟨"missing \x7d near end of file", last + 1⟩

/-- Refuses the next token. -/
def refuseToken {α : Type} : Reader α := do
  match (← get).rest with
  | [] => refuseEnd
  | l :: _ =>
    match l.token with
    | .fault message => throw ⟨message, l.line⟩
    | token          => throw ⟨"syntax error at or near " ++ token.shown, l.line⟩

/-- Whether a sign is next. -/
def isNext (s : String) : Reader Bool := do
  match ← peek with
  | .sign t => return s = t
  | _       => return false

/-- Goes past a sign if it is next. -/
def accept (s : String) : Reader Bool := do
  if ← isNext s then
    skip
    return true
  else return false

/-- Goes past a sign, which must be next. -/
def expect (s : String) : Reader Unit := do
  if !(← accept s) then refuseToken

/-- Whether a keyword is next. -/
def isWord (s : String) : Reader Bool := do
  match ← peek with
  | .keyword t => return s = t
  | _          => return false

/-- Goes past a keyword if it is next. -/
def acceptWord (s : String) : Reader Bool := do
  if ← isWord s then
    skip
    return true
  else return false

/-- Goes past ends of lines. -/
def skipLines : (fuel : Nat) → Reader Unit
  | 0 => return
  | fuel + 1 => do
    match (← get).rest with
    | ⟨.lineEnd, _⟩ :: _ :: _ =>
      skip
      skipLines fuel
    | _ => return

/-- Goes past the ends of lines that follow. -/
def afterLines : Reader Unit := do skipLines (← get).rest.length

/-! ### Names -/

/-- The variable of a name. -/
def slotOf (name : String) : Reader Slot := do
  let s ← get
  match s.own.bind fun own => own.idxOf? name with
  | some n => return .own n
  | none =>
    match s.names.idxOf? name with
    | some n => return .shared n
    | none =>
      if s.drafts.any fun d => d.name = name && d.routine.isSome then refuse ("syntax error at or near " ++ name)
      set { s with names := s.names.push name }
      return .shared s.names.size

/-- The variable whose name is next. -/
def nextSlot : Reader Slot := do
  match ← peek with
  | .name s =>
    skip
    slotOf s
  | _ => refuseToken

/-- The number of a function. -/
def routineOf (name : String) : Reader Nat := do
  let s ← get
  match s.drafts.findIdx? (·.name = name) with
  | some n => return n
  | none =>
    set { s with drafts := s.drafts.push ⟨name, none, []⟩ }
    return s.drafts.size

/-- Takes note of a call. -/
def noteCall (n count : Nat) : Reader Unit := do
  let s ← get
  set { s with drafts := s.drafts.modify n fun d => { d with calls := (count, s.line) :: d.calls } }

/-! ### Expressions -/

/-- An expression as it was read, and the place that it is if that can be assigned. -/
structure Operand where
  expr  : Expr
  place : Option Place

/-- An expression that cannot be assigned. -/
def Operand.plain (e : Expr) : Operand := ⟨e, none⟩

/-- A place as an expression. -/
def Operand.ofPlace (p : Place) : Operand := ⟨.value p, some p⟩

/-- The operations of assignments. -/
def changeOf? : String → Option Operator
  | "+=" => some .add
  | "-=" => some .subtract
  | "*=" => some .multiply
  | "/=" => some .divide
  | "%=" => some .remainder
  | "^=" => some .power
  | _    => none

/-- The relations by their signs. In what is printed, a sign of greatness leads elsewhere. -/
def relationOf? (printing : Bool) : String → Option Relation
  | "==" => some .equal
  | "!=" => some .unequal
  | "<"  => some .less
  | "<=" => some .atMost
  | ">"  => if printing then none else some .greater
  | ">=" => some .atLeast
  | _    => none

/-- What stands between two expressions that are looked at as wholes. -/
inductive Link where
  | either
  | both
  | member
  | fits (negated : Bool)
  | relation (r : Relation)

/-- How closely a link binds. -/
def Link.rank : Link → Nat
  | either     => 0
  | both       => 1
  | member     => 2
  | fits _     => 3
  | relation _ => 4

/-- The expression that two linked ones make. -/
def Link.join (l : Link) (a b : Expr) : Expr :=
  match l with
  | either     => .either a b
  | both       => .both a b
  | member     => .join a b
  | fits n     => .compare n a b
  | relation r => .relate r a b

/-- The link that a token is. -/
def linkOf? (printing : Bool) : Token → Option Link
  | .sign "||"    => some .either
  | .sign "&&"    => some .both
  | .keyword "in" => some .member
  | .sign "~"     => some (.fits false)
  | .sign "!~"    => some (.fits true)
  | .sign s       => (relationOf? printing s).map .relation
  | _             => none

/-- Whether an operand may begin with a token. -/
def Token.begins : Token → Bool
  | number _ _ | text _ | regex _ | name _ | called _ | known _ _ => true
  | keyword s => ["getline", "split", "sub", "gsub"].contains s
  | sign s    => ["(", "$", "!", "++", "--"].contains s
  | _         => false

/-- The regular expression of a text in a program. -/
def compile (s : String) : Reader Regex := do
  match Pattern.ofText s with
  | .ok r        => return r
  | .error fault => refuse ("regular expression compile failed (" ++ fault.message ++ ")\n" ++ s)

/-- Refuses a number of arguments. -/
def checkCount (name : String) (least most count : Nat) : Reader Unit := do
  if count < least || most < count then refuse ("wrong number of arguments in call to " ++ name)

mutual

/-- Reads an expression. In what is printed, some signs have another meaning. -/
def readExpr : (fuel : Nat) → (printing : Bool) → Reader Operand
  | 0, _ => refuseToken
  | fuel + 1, printing => do
    let c ← readLinked fuel printing 0
    if ← accept "?" then
      let a ← readExpr fuel printing
      expect ":"
      let b ← readExpr fuel printing
      return .plain (.choose c.expr a.expr b.expr)
    else return c

/-- Reads expressions between which stand links that bind at least as closely as one of some rank. -/
def readLinked : (fuel : Nat) → (printing : Bool) → (least : Nat) → Reader Operand
  | 0, _, _ => refuseToken
  | fuel + 1, printing, least => do
    let a ← readAssigned fuel printing
    moreLinked fuel printing least a

/-- Reads what is linked to something. -/
def moreLinked : (fuel : Nat) → (printing : Bool) → (least : Nat) → Operand → Reader Operand
  | 0, _, _, a => return a
  | fuel + 1, printing, least, a => do
    match linkOf? printing (← peek) with
    | none => return a
    | some link =>
      if link.rank < least then return a
      skip
      match link with
      | .member =>
        let s ← nextSlot
        moreLinked fuel printing least (.plain (.has s [a.expr]))
      | link =>
        let b ← readLinked fuel printing (link.rank + 1)
        moreLinked fuel printing least (.plain (link.join a.expr b.expr))

/-- Reads an assignment, or what is joined. -/
def readAssigned : (fuel : Nat) → (printing : Bool) → Reader Operand
  | 0, _ => refuseToken
  | fuel + 1, printing => do
    let a ← readSum fuel printing
    match a.place, ← peek with
    | some p, .sign "=" =>
      skip
      let e ← readExpr fuel printing
      return .plain (.assign p e.expr)
    | some p, .sign s =>
      match changeOf? s with
      | some o =>
        skip
        let e ← readExpr fuel printing
        return .plain (.change p o e.expr)
      | none => moreJoined fuel printing a
    | _, _ => moreJoined fuel printing a

/-- Reads what is joined to something. -/
def moreJoined : (fuel : Nat) → (printing : Bool) → Operand → Reader Operand
  | 0, _, a => return a
  | fuel + 1, printing, a => do
    if (← peek).begins then
      let b ← readSum fuel printing
      moreJoined fuel printing (.plain (.join a.expr b.expr))
    else return a

/-- Reads a sum. -/
def readSum : (fuel : Nat) → (printing : Bool) → Reader Operand
  | 0, _ => refuseToken
  | fuel + 1, printing => do
    let a ← readProduct fuel printing
    moreSum fuel printing a

def moreSum : (fuel : Nat) → (printing : Bool) → Operand → Reader Operand
  | 0, _, a => return a
  | fuel + 1, printing, a => do
    let adds ← isNext "+"
    if adds || (← isNext "-") then
      skip
      let b ← readProduct fuel printing
      moreSum fuel printing (.plain (.calculate (if adds then .add else .subtract) a.expr b.expr))
    else return a

/-- Reads a product. -/
def readProduct : (fuel : Nat) → (printing : Bool) → Reader Operand
  | 0, _ => refuseToken
  | fuel + 1, printing => do
    let a ← readSigned fuel printing
    moreProduct fuel printing a

def moreProduct : (fuel : Nat) → (printing : Bool) → Operand → Reader Operand
  | 0, _, a => return a
  | fuel + 1, printing, a => do
    let operator? : Option Operator := match ← peek with
      | .sign "*" => some .multiply
      | .sign "/" => some .divide
      | .sign "%" => some .remainder
      | _         => none
    match operator? with
    | some o =>
      skip
      let b ← readSigned fuel printing
      moreProduct fuel printing (.plain (.calculate o a.expr b.expr))
    | none => return a

/-- Reads something with signs before it. -/
def readSigned : (fuel : Nat) → (printing : Bool) → Reader Operand
  | 0, _ => refuseToken
  | fuel + 1, printing => do
    if ← accept "!" then return .plain (.not (← readSigned fuel printing).expr)
    else if ← accept "-" then return .plain (.negate (← readSigned fuel printing).expr)
    else if ← accept "+" then return .plain (.plus (← readSigned fuel printing).expr)
    else
      let a ← readPower fuel
      morePiped fuel printing a

/-- Reads what is read from the command that something is. -/
def morePiped : (fuel : Nat) → (printing : Bool) → Operand → Reader Operand
  | 0, _, a => return a
  | fuel + 1, printing, a => do
    if printing || !(← isNext "|") then return a
    skip
    if !(← acceptWord "getline") then refuseToken
    let p ← readTarget fuel
    morePiped fuel printing (.plain (.read (.command a.expr) p))

/-- Reads a power. -/
def readPower : (fuel : Nat) → Reader Operand
  | 0 => refuseToken
  | fuel + 1 => do
    let a ← readStepped fuel
    if ← accept "^" then
      let b ← readExponent fuel
      return .plain (.calculate .power a.expr b.expr)
    else return a

/-- Reads an exponent, which may have signs. -/
def readExponent : (fuel : Nat) → Reader Operand
  | 0 => refuseToken
  | fuel + 1 => do
    if ← accept "-" then return .plain (.negate (← readExponent fuel).expr)
    else if ← accept "+" then return .plain (.plus (← readExponent fuel).expr)
    else if ← accept "!" then return .plain (.not (← readExponent fuel).expr)
    else readPower fuel

/-- Reads something that may be counted up or down behind it. -/
def readStepped : (fuel : Nat) → Reader Operand
  | 0 => refuseToken
  | fuel + 1 => do
    let a ← readPrimary fuel
    match a.place with
    | none => return a
    | some p =>
      if ← accept "++" then return .plain (.step p 1.0 false)
      else if ← accept "--" then return .plain (.step p (-1.0) false)
      else return a

/-- Reads the place that something is read into, if there is one. -/
def readTarget : (fuel : Nat) → Reader (Option Place)
  | 0 => return none
  | fuel + 1 => do
    match ← peek with
    | .name _ | .sign "$" => return (← readPrimary fuel).place
    | _ => return none

/-- Reads expressions with commas between them, up to a closing sign. -/
def readList : (fuel : Nat) → (ending : String) → Reader (List Expr)
  | 0, _ => refuseToken
  | fuel + 1, ending => do
    let e ← readExpr fuel false
    if ← accept "," then return e.expr :: (← readList fuel ending)
    else
      expect ending
      return [e.expr]

/-- Reads the arguments of a call, of which there may be none. -/
def readArguments : (fuel : Nat) → Reader (List Expr)
  | 0 => refuseToken
  | fuel + 1 => do
    expect "("
    if ← accept ")" then return []
    else readList fuel ")"

/-- Reads an operand. -/
def readPrimary : (fuel : Nat) → Reader Operand
  | 0 => refuseToken
  | fuel + 1 => do
    match ← peek with
    | .number x _ =>
      skip
      return .plain (.number x)
    | .text s =>
      skip
      return .plain (.text s)
    | .regex s =>
      skip
      return .plain (.fits (← compile s))
    | .name s =>
      skip
      let v ← slotOf s
      if ← accept "[" then return .ofPlace (.element v (← readList fuel "]"))
      else return .ofPlace (.slot v)
    | .called s =>
      skip
      let n ← routineOf s
      let arguments ← readArguments fuel
      noteCall n arguments.length
      return .plain (.call n arguments)
    | .known f s =>
      skip
      if f = .length && !(← isNext "(") then return .plain (.known f [])
      let arguments ← readArguments fuel
      match knownFunctions.lookup s with
      | some (_, least, most) => checkCount s least most arguments.length
      | none                  => pure ()
      return .plain (.known f arguments)
    | .keyword "split" =>
      skip
      expect "("
      let e ← readExpr fuel false
      expect ","
      let s ← nextSlot
      let separator ← if ← accept "," then pure (some (← readExpr fuel false).expr) else pure none
      expect ")"
      return .plain (.split e.expr s separator)
    | .keyword "sub" => readSubstitution fuel false
    | .keyword "gsub" => readSubstitution fuel true
    | .keyword "getline" =>
      skip
      let p ← readTarget fuel
      if ← accept "<" then
        let file ← readPower fuel
        return .plain (.read (.file file.expr) p)
      else return .plain (.read .input p)
    | .sign "(" =>
      skip
      let e ← readExpr fuel false
      if ← accept "," then
        let more ← readList fuel ")"
        if !(← acceptWord "in") then refuseToken
        let s ← nextSlot
        return .plain (.has s (e.expr :: more))
      else
        expect ")"
        match e.place with
        | some (.field f) => return .ofPlace (.field f)
        | _               => return .plain e.expr
    | .sign "$" =>
      skip
      let e ← readFieldNumber fuel
      return .ofPlace (.field e.expr)
    | .sign "++" => readStep fuel 1.0
    | .sign "--" => readStep fuel (-1.0)
    | _ => refuseToken

/-- Reads the number of a field. -/
def readFieldNumber : (fuel : Nat) → Reader Operand
  | 0 => refuseToken
  | fuel + 1 => do
    match ← peek with
    | .sign "-" | .sign "+" | .sign "!" => readExponent fuel
    | _ => readPrimary fuel

/-- Reads what is counted up or down. -/
def readStep : (fuel : Nat) → (by_ : Float) → Reader Operand
  | 0, _ => refuseToken
  | fuel + 1, by_ => do
    skip
    match (← readPrimary fuel).place with
    | some p => return .plain (.step p by_ true)
    | none   => refuseToken

/-- Reads a substitution. -/
def readSubstitution : (fuel : Nat) → (all : Bool) → Reader Operand
  | 0, _ => refuseToken
  | fuel + 1, all => do
    skip
    expect "("
    let r ← readExpr fuel false
    expect ","
    let e ← readExpr fuel false
    if ← accept "," then
      match (← readPrimary fuel).place with
      | some p =>
        expect ")"
        return .plain (.substitute all r.expr e.expr (some p))
      | none => refuseToken
    else
      expect ")"
      return .plain (.substitute all r.expr e.expr none)

end

/-! ### Statements -/

/-- How deep the expressions may be that the tokens which are left make up. -/
def fuelOf : Reader Nat := do return 24 * (← get).rest.length + 64

/-- Reads an expression. -/
def nextExpr : Reader Expr := do return (← readExpr (← fuelOf) false).expr

/-- Goes past the end of a statement. What closes a block may follow at once. -/
def endStatement : Reader Unit := do
  match ← peek with
  | .lineEnd | .sign ";" =>
    if (← get).rest.length ≤ 1 then refuseEnd
    skip
  | .sign "\x7d" => return
  | _            => refuseToken

/-- Whether a statement ends here. -/
def statementEnds : Reader Bool := do
  match ← peek with
  | .lineEnd                   => return true
  | .sign s                    => return s = ";" || s = "\x7d"
  | _                          => return false

/-- Whether what is printed ends here. -/
def printEnds : Reader Bool := do
  match ← peek with
  | .sign s => if [">", ">>", "|"].contains s then return true else statementEnds
  | _       => statementEnds

/-- Reads expressions that are printed. -/
def readItems : (fuel : Nat) → Reader (List Expr)
  | 0 => refuseToken
  | fuel + 1 => do
    let e ← readExpr (← fuelOf) true
    if ← accept "," then return e.expr :: (← readItems fuel)
    else return [e.expr]

/-- Reads all that is printed; it may stand in parentheses. -/
def readPrinted : Reader (List Expr) := do
  if ← printEnds then return []
  let before ← get
  let fuel ← fuelOf
  let grouped? : Option (List Expr × Reading) ← do
    if ← isNext "(" then
      let attempt : Reader (List Expr) := do
        skip
        if ← accept ")" then return []
        let items ← readList fuel ")"
        if ← printEnds then return items else refuseToken
      match attempt.run before with
      | .ok found => pure (some found)
      | .error _  => pure none
    else pure none
  match grouped? with
  | some (items, after) =>
    set after
    return items
  | none => readItems fuel

/-- Reads where something is printed to. -/
def readOutlet : Reader (Option (Outlet × Expr)) := do
  let outlet? : Option Outlet := match ← peek with
    | .sign ">"  => some .file
    | .sign ">>" => some .appended
    | .sign "|"  => some .command
    | _          => none
  match outlet? with
  | none => return none
  | some outlet =>
    skip
    return some (outlet, ← nextExpr)

/-- Refuses a statement that only makes sense in a loop. -/
def checkLoop (word : String) : Reader Unit := do
  if (← get).loops = 0 then refuse (word ++ " statement outside of loop")

/-- Reads a condition in parentheses. -/
def readCondition : Reader Expr := do
  expect "("
  let c ← nextExpr
  expect ")"
  return c

/-- Reads an expression unless a sign is next. -/
def readUnless (s : String) : Reader (Option Expr) := do
  if ← isNext s then return none else return some (← nextExpr)

mutual

/-- Reads a statement. -/
def readStatement : (fuel : Nat) → Reader Statement
  | 0 => refuseToken
  | fuel + 1 => do
    match ← peek with
    | .sign "\x7b" => return .block (← readBlock fuel)
    | .sign ";" =>
      skip
      return .block []
    | .lineEnd =>
      endStatement
      return .block []
    | .keyword "if" =>
      skip
      let c ← readCondition
      afterLines
      let yes ← readStatement fuel
      afterLines
      if ← acceptWord "else" then return .choose c yes (some (← readStatement fuel))
      else return .choose c yes none
    | .keyword "while" =>
      skip
      let c ← readCondition
      if ← accept ";" then return .whilst c (.block [])
      afterLines
      return .whilst c (← readBody fuel)
    | .keyword "do" =>
      skip
      let body ← readBody fuel
      afterLines
      if !(← acceptWord "while") then refuseToken
      let c ← readCondition
      endStatement
      return .once body c
    | .keyword "for" =>
      skip
      readFor fuel
    | .keyword "print" =>
      skip
      let items ← readPrinted
      let target ← readOutlet
      endStatement
      return .print items target
    | .keyword "printf" =>
      skip
      let items ← readPrinted
      if items.isEmpty then refuse "no arguments in call to printf"
      let target ← readOutlet
      endStatement
      return .format items target
    | .keyword "next" => readGo .next
    | .keyword "nextfile" => readGo .nextFile
    | .keyword "exit" =>
      skip
      let e ← if ← statementEnds then pure none else pure (some (← nextExpr))
      endStatement
      return .exit e
    | .keyword "return" =>
      skip
      if (← get).own.isNone then refuse "return outside function body"
      let e ← if ← statementEnds then pure none else pure (some (← nextExpr))
      endStatement
      return .give e
    | .keyword "break" =>
      skip
      checkLoop "break"
      endStatement
      return .leave
    | .keyword "continue" =>
      skip
      checkLoop "continue"
      endStatement
      return .again
    | .keyword "delete" =>
      skip
      let s ← nextSlot
      let keys ← if ← accept "[" then pure (some (← readList (← fuelOf) "]")) else pure none
      endStatement
      return match keys with
        | some keys => .delete s keys
        | none      => .clear s
    | _ =>
      let e ← nextExpr
      endStatement
      return .act e

/-- Reads what leaves the rules for the record. -/
def readGo (s : Statement) : Reader Statement := do
  let name := match s with | .nextFile => "nextfile" | _ => "next"
  skip
  if !(← get).mayGo then refuse ("improper use of " ++ name)
  endStatement
  return s

/-- Reads a statement in a loop. -/
def readBody : (fuel : Nat) → Reader Statement
  | 0 => refuseToken
  | fuel + 1 => do
    modify fun s => { s with loops := s.loops + 1 }
    let body ← readStatement fuel
    modify fun s => { s with loops := s.loops - 1 }
    return body

/-- Reads the rest of a loop that goes through a table or counts. -/
def readFor : (fuel : Nat) → Reader Statement
  | 0 => refuseToken
  | fuel + 1 => do
    expect "("
    match (← get).rest with
    | ⟨.name v, _⟩ :: ⟨.keyword "in", _⟩ :: ⟨.name t, _⟩ :: ⟨.sign ")", _⟩ :: _ =>
      skip
      skip
      skip
      skip
      let v ← slotOf v
      let t ← slotOf t
      afterLines
      return .each v t (← readBody fuel)
    | _ =>
      let first ← readUnless ";"
      expect ";"
      let c ← readUnless ";"
      expect ";"
      let step ← readUnless ")"
      expect ")"
      if ← accept ";" then return .turns first c step (.block [])
      afterLines
      return .turns first c step (← readBody fuel)

/-- Reads a block. -/
def readBlock : (fuel : Nat) → Reader (List Statement)
  | 0 => refuseToken
  | fuel + 1 => do
    expect "\x7b"
    readStatements fuel

/-- Reads statements up to the end of a block. -/
def readStatements : (fuel : Nat) → Reader (List Statement)
  | 0 => refuseToken
  | fuel + 1 => do
    if ← accept "\x7d" then return []
    match (← get).rest with
    | [] | [⟨.lineEnd, _⟩] => refuseEnd
    | _ =>
      let s ← readStatement fuel
      return s :: (← readStatements fuel)

end

/-! ### Programs -/

/-- Reads the names of parameters. -/
def readParameters : (fuel : Nat) → Reader (List String)
  | 0 => refuseToken
  | fuel + 1 => do
    match ← peek with
    | .name s =>
      skip
      if ← accept "," then return s :: (← readParameters fuel)
      else
        expect ")"
        return [s]
    | _ => refuseToken

/-- Reads a function. -/
def readRoutine (fuel : Nat) : Reader Unit := do
  skip
  let name ← match ← peek with
    | .called s | .name s => pure s
    | _                   => refuseToken
  skip
  if (← get).names.contains name then refuse ("illegal reference to variable " ++ name)
  let n ← routineOf name
  if ((← get).drafts[n]?.bind (·.routine)).isSome then refuse ("redefinition of " ++ name)
  expect "("
  let parameters ← if ← accept ")" then pure [] else readParameters fuel
  match parameters.find? fun p => 1 < parameters.count p with
  | some p => refuse (p ++ " is duplicated in argument list")
  | none   => pure ()
  afterLines
  -- A function may call itself before its end.
  let draft : Routine := ⟨parameters.length, [], []⟩
  modify fun s =>
    { s with
      own := some parameters, mayGo := false, loops := 0
      drafts := s.drafts.modify n ({ · with routine := some draft }) }
  let body ← readBlock fuel
  modify fun s =>
    { s with
      own := none, mayGo := true
      drafts := s.drafts.modify n ({ · with routine := some { draft with body } }) }

/-- What a program is made of. -/
inductive Item where
  | begins (body : List Statement)
  | ends (body : List Statement)
  | rule (r : Rule)
  | routine

/-- Reads what is done with records that are selected; if nothing is said, they are printed. -/
def readAction (fuel : Nat) : Reader (List Statement) := do
  match ← peek with
  | .sign "\x7b" =>
    let body ← readBlock fuel
    let _ ← accept ";"
    return body
  | .lineEnd | .sign ";" =>
    skip
    return [.print [] none]
  | _ => refuseToken

/-- Reads an item of a program. -/
def readItem (fuel : Nat) : Reader Item := do
  match ← peek with
  | .keyword "function" =>
    readRoutine fuel
    return .routine
  | .keyword "BEGIN" =>
    skip
    modify ({ · with mayGo := false })
    let body ← readBlock fuel
    modify ({ · with mayGo := true })
    return .begins body
  | .keyword "END" =>
    skip
    modify ({ · with mayGo := false })
    let body ← readBlock fuel
    modify ({ · with mayGo := true })
    return .ends body
  | .sign "\x7b" => return .rule ⟨.all, ← readBlock fuel⟩
  | _ =>
    let first ← nextExpr
    if ← accept "," then
      let last ← nextExpr
      let n := (← get).ranges
      modify ({ · with ranges := n + 1 })
      return .rule ⟨.range n first last, ← readAction fuel⟩
    else return .rule ⟨.when first, ← readAction fuel⟩

/-- Reads the items of a program. -/
def readRest : (fuel : Nat) → Reader (List Item)
  | 0 => return []
  | fuel + 1 => do
    afterLines
    match (← get).rest with
    | [] | [⟨.lineEnd, _⟩] => return []
    | _ =>
      let item ← readItem (← fuelOf)
      match item with
      | .rule ⟨.all, _⟩ | .begins _ | .ends _ | .routine =>
        let _ ← accept ";"
      | .rule _ => pure ()
      return item :: (← readRest fuel)

/-- The program that a text spells. -/
def Program.ofText (text : String) : Except ReadFault Program := do
  let all := tokens text
  let start : Reading := ⟨all, 1, standingNames, #[], none, 0, true, 0⟩
  let (items, s) ← (readRest (all.length + 1)).run start
  let lastLine := (all.getLast?.map (·.line)).getD 1
  for d in s.drafts do
    match d.routine with
    | none => throw ⟨"function " ++ d.name ++ " never defined", lastLine + 1⟩
    | some f =>
      for (count, line) in d.calls do
        if f.parameters < count then throw ⟨"too many arguments in call to " ++ d.name, line⟩
  let routines := s.drafts.map fun d => d.routine.getD default
  return {
    begins   := items.filterMap fun | .begins b => some b | _ => none
    rules    := items.filterMap fun | .rule r => some r | _ => none
    ends     := items.filterMap fun | .ends b => some b | _ => none
    routines := withTables (routines.size * 8 + 8) routines
    names    := s.names }

end BoardConsole.Shell.Scan
