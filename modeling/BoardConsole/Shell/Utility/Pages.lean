import BoardConsole.Shell.Utility.Date
import BoardConsole.Shell.Utility.Pages.Print

/-!
# Shell — Inputs as pages

`pr` prints inputs as pages with headers and columns, one input after the other or side by side.
-/

namespace BoardConsole.Shell.Utility

open Act

/-- An input of pages: its text, and the name and the time for a header. -/
structure PageInput where
  text  : String
  title : String
  time  : Moment

/-- The pages of an input, or of some side by side, and the words for that there are not so many as the
first one asked for. -/
def pagesOf (l : PageLayout) (now : Moment) (inputs : List PageInput) : String × Option String :=
  let texts := inputs.map (·.text.toList)
  let size := (texts.map List.length).foldl (· + ·) 0
  let (title, time) := match l.flow, inputs with
    | .merged, _  => ("", now)
    | _, [input]  => (input.title, input.time)
    | _, _        => ("", now)
  let p : Printing :=
    { layout := l, inputs := texts.toArray, columns := l.pageColumns, line := l.firstLine
      ready := if l.flow = .merged then inputs.length else 1
      date := time.format l.dateFormat, title := l.header.getD title }
  let (missing, p) := (Press.skipPages (l.first - 1) 1).run p
  match missing with
  | some page =>
    ("", some ("starting page number " ++ toString l.first ++ " exceeds page count " ++ toString page))
  | none =>
    let ((), p) := (Press.putPages (size + inputs.length + 2)).run { p with page := l.first }
    (String.ofList p.out.reverse, none)

/-- An input by its name. -/
def pageInput (now : Moment) (name : String) : Act (Except String PageInput) := do
  match ← readInput name with
  | .error reason => return .error reason
  | .ok text =>
    if name = "-" then return .ok ⟨text, "", now⟩
    match ← resolve true name with
    | .error _ => return .ok ⟨text, name, now⟩
    | .ok path => return .ok ⟨text, name, Moment.ofNanos now.zone (changedAt (← volume) path)⟩

/-- Prints inputs as pages. -/
def pr : Builtin := fun _ args => prUsage.run args fun a => do
  let refuse (fault : PageFault) : Act Nat := do
    match fault with
    | .usage message => prUsage.refuse message
    | .plain message =>
      prUsage.complain message
      return 1
  match PageLayout.ofArguments a with
  | .error fault => refuse fault
  | .ok (l, names) =>
    let now ← presentMoment
    let mut inputs : List PageInput := []
    let mut failed := false
    let mut stopped := false
    for name in if names.isEmpty then ["-"] else names do
      match ← pageInput now name with
      | .ok input => inputs := input :: inputs
      | .error reason =>
        failed := true
        if !l.lenient || reason = PathFault.isADirectory.reason then
          prUsage.complain (shownName name ++ ": " ++ reason)
        if reason = PathFault.isADirectory.reason then
          stopped := true
          break
    let merged : Bool := l.flow = .merged && !names.isEmpty
    if stopped && merged then return 1
    let groups := if !merged then inputs.reverse.map fun input => [input]
      else if inputs.isEmpty then [] else [inputs.reverse]
    let mut texts := []
    for group in groups do
      match l.for (if names.isEmpty then 0 else group.length) with
      | .error fault =>
        let _ ← printChecked "pr" (String.join texts.reverse)
        return ← refuse fault
      | .ok l =>
        let (text, complaint) := pagesOf l now group
        if let some message := complaint then prUsage.complain message
        texts := text :: texts
    finish "pr" (String.join texts.reverse) failed

end BoardConsole.Shell.Utility
