import BoardConsole.Shell.Expand

/-!
# Shell — Redirections

How a command's descriptors are led elsewhere. All targets are expanded before the first of them is
opened; a target that cannot be opened stops at that place, and what was led before stays so until
the descriptors are put back.
-/

namespace BoardConsole.Shell

/-- A redirection whose target has been expanded. -/
structure Redirected where
  descriptor : Nat
  opening    : Opening
  text       : String

namespace Act

/-- The words for a fault when a file is opened to be read. -/
def openReason : PathFault → String
  | .missing | .notADirectory => "No such file"
  | fault                     => fault.reason

/-- The words for a fault when a file is made. -/
def createReason : PathFault → String
  | .missing | .notADirectory => "Directory nonexistent"
  | fault                     => fault.reason

/-- Opens a file to be read. -/
def openToRead (name : String) : Act (Except String Nat) := do
  match ← resolve true name with
  | .error fault => return .error (openReason fault)
  | .ok path =>
    match kindAt? (← volume) path with
    | none            => return .error (openReason .missing)
    | some .directory => return .ok (← addDescription ⟨.directory, 0, false, true, false⟩)
    | some _          => return .ok (← openAt path true false false)

/-- Opens a file to be written, which is made where it is missing. -/
def openToWrite (name : String) (opening : Opening) : Act (Except String Nat) := do
  match ← resolve true name with
  | .error fault =>
    let reason := if Volume.endsInDirectory name && fault = .missing
      then PathFault.isADirectory.reason else createReason fault
    return .error (if name = "" then createReason .missing else reason)
  | .ok path =>
    let reads := opening = .both
    match kindAt? (← volume) path with
    | some .directory => return .error PathFault.isADirectory.reason
    | some .device | some .pipe => return .ok (← openAt path reads true false)
    | some _ =>
      let v ← volume
      if opening = .writing && (← isSet 'C') then return .error "File exists"
      if opening = .writing || opening = .overwriting then setVolume (v.put path [])
      else if (v.contents? path).isNone then setVolume (v.put path ((contentsAt? v path).getD []))
      return .ok (← openAt path reads true (opening = .appending))
    | none =>
      createFile path [] 0o666
      return .ok (← openAt path reads true (opening = .appending))

/-- Leads a descriptor where a redirection says. Answers what stands in the way. -/
def redirectOne (r : Redirected) : Act (Option String) := do
  let copy (source : Nat) : Act (Option String) := do
    match (← process).descriptors.lookup source with
    | some k =>
      lead r.descriptor k
      return none
    | none => return some (toString source ++ ": Bad file descriptor")
  match r.opening with
  | .copying =>
    if r.text = "-" then
      close r.descriptor
      return none
    else copy (r.text.toNat?.getD 0)
  | .document _ =>
    let (k, _) ← addPipe (.ofText r.text.toList)
    lead r.descriptor k
    return none
  | opening =>
    match ← fileNamed? r.text, descriptorNamed? r.text with
    | none, some source => copy source
    | file, _ =>
      let name := file.getD r.text
      let (opened, words) ← if opening = .reading
        then pure (← openToRead name, "cannot open ")
        else pure (← openToWrite name opening, "cannot create ")
      match opened with
      | .ok k =>
        lead r.descriptor k
        return none
      | .error reason => return some (words ++ r.text ++ ": " ++ reason)

/-- Leads descriptors where redirections say, up to the first that fails. Answers whether all of
them succeeded. -/
def redirect : List Redirected → Act Bool
  | []      => return true
  | r :: rs => do
    match ← redirectOne r with
    | none => redirect rs
    | some message =>
      -- Where messages go has been closed before it is led elsewhere.
      if !(r.opening = .copying && r.descriptor = 2) then warn message
      return false

/-- Expands the targets of redirections. -/
def expandTargets (capture : Command → Act String) (rs : List Redirection) :
    Act (List Redirected) :=
  rs.mapM fun
    | .mk descriptor (.document n) _ => do
      let text := (← world).documents.getD n []
      return ⟨descriptor, .document n, ← Expand.document capture text⟩
    | .mk descriptor .copying target => do
      let text ← Expand.text capture target
      let known := text = "-" || (text.length = 1 && text.all Char.isDigit)
      if !known then fail "Syntax error: Bad fd number"
      return ⟨descriptor, .copying, text⟩
    | .mk descriptor opening target => do
      return ⟨descriptor, opening, ← Expand.text capture target⟩

end Act

end BoardConsole.Shell
