import Std.Data.HashMap

/-!
# Shell — How one text becomes another

A text becomes another by changes, each of which deletes some lines and adds others in their place.
Lines count as equal where they have the same form. The search goes from the beginning and from the
end at once, along the diagonals on which both texts go on alike, until both ways meet; what lies
before and behind that place is searched in the same way. Lines that could only mislead the search
are left out of it, and in the end each change is moved as far down as it can be.
-/

namespace BoardConsole.Shell.Difference

/-- A change: how many lines of both texts come before it, how many it deletes of the first, and how
many it adds of the second. -/
structure Delta where
  left    : Nat
  right   : Nat
  deleted : Nat
  added   : Nat
deriving DecidableEq, Repr

/-- The number of the first line of the first text behind a change. -/
def Delta.leftEnd (c : Delta) : Nat := c.left + c.deleted

/-- The number of the first line of the second text behind a change. -/
def Delta.rightEnd (c : Delta) : Nat := c.right + c.added

/-! ### The search -/

/-- The lines of two texts, each as the number of its form. -/
structure Rows where
  left  : Array Nat
  right : Array Nat

/-- Parts of both texts: from some lines on, up to others. -/
structure Box where
  top    : Nat
  bottom : Nat
  start  : Nat
  finish : Nat

/-- Whether a line of one text has the form of a line of the other. -/
def Rows.meets (r : Rows) (x y : Nat) : Bool :=
  match r.left[x]?, r.right[y]? with
  | some a, some b => a = b
  | _, _           => false

/-- How far both texts go on alike from two lines. -/
def Rows.ahead (r : Rows) (b : Box) (x y : Nat) : Nat :=
  if x < b.bottom && y < b.finish && r.meets x y then r.ahead b (x + 1) (y + 1) + 1 else 0
termination_by b.bottom - x
decreasing_by simp_all; omega

/-- How far both texts are alike before two lines. -/
def Rows.behind (r : Rows) (b : Box) : (x y : Nat) → Nat
  | x + 1, y + 1 =>
    if b.top ≤ x && b.start ≤ y && r.meets x y then r.behind b x y + 1 else 0
  | _, _ => 0

/-- The lines that a search has reached, on each of the diagonals between two. A diagonal is the
number of a line of the first text less that of the second. -/
structure Front where
  low   : Int
  high  : Int
  reach : Array Int

/-- The least and the greatest diagonal of a part. -/
def Box.least (b : Box) : Int := b.top - b.finish

def Box.greatest (b : Box) : Int := b.bottom - b.start

/-- The search at its beginning, on one diagonal. -/
def Front.ofPlace (b : Box) (diagonal reached : Int) : Front :=
  let size := (b.bottom - b.top) + (b.finish - b.start) + 3
  ⟨diagonal, diagonal, (Array.replicate size 0).setIfInBounds (diagonal - b.least + 1).toNat reached⟩

/-- The line that is reached on a diagonal. -/
def Front.get (b : Box) (f : Front) (diagonal : Int) : Int :=
  f.reach.getD (diagonal - b.least + 1).toNat 0

def Front.set (b : Box) (f : Front) (diagonal reached : Int) : Front :=
  { f with reach := f.reach.setIfInBounds (diagonal - b.least + 1).toNat reached }

/-- The search on the diagonals beside those that it is on; on new ones nothing is reached yet. -/
def Front.widen (b : Box) (nothing : Int) (f : Front) : Front :=
  let f := if b.least < f.low then { f.set b (f.low - 2) nothing with low := f.low - 1 }
    else { f with low := f.low + 1 }
  if f.high < b.greatest then { f.set b (f.high + 2) nothing with high := f.high + 1 }
  else { f with high := f.high - 1 }

/-- Every other diagonal of a search, the greatest first. -/
def Front.diagonals (f : Front) : List Int :=
  (List.range ((f.high - f.low) / 2 + 1).toNat).map fun (k : Nat) => f.high - 2 * (k : Int)

/-- What a step of the search leads to. -/
inductive Step where
  /-- Both ways meet at two lines. -/
  | met (x y : Nat)
  | on (front : Front)

/-- Whether two ways meet on a diagonal. -/
def Front.covers (f : Front) (diagonal : Int) : Bool := f.low ≤ diagonal && diagonal ≤ f.high

/-- A step of the search from the beginning. -/
def stepDown (r : Rows) (b : Box) (looks : Bool) (other : Front) : List Int → Front → Step
  | [], f => .on f
  | d :: ds, f =>
    let low := f.get b (d - 1)
    let high := f.get b (d + 1)
    let from_ := if low < high then high else low + 1
    let x := from_ + r.ahead b from_.toNat (from_ - d).toNat
    if looks && other.covers d && other.get b d ≤ x then .met x.toNat (x - d).toNat
    else stepDown r b looks other ds (f.set b d x)

/-- A step of the search from the end. -/
def stepUp (r : Rows) (b : Box) (looks : Bool) (other : Front) : List Int → Front → Step
  | [], f => .on f
  | d :: ds, f =>
    let low := f.get b (d - 1)
    let high := f.get b (d + 1)
    let from_ := if low < high then low else high - 1
    let x := from_ - r.behind b from_.toNat (from_ - d).toNat
    if looks && other.covers d && x ≤ other.get b d then .met x.toNat (x - d).toNat
    else stepUp r b looks other ds (f.set b d x)

/-- The place where the searches from both ends meet. -/
def meeting (r : Rows) (b : Box) (odd : Bool) : (fuel : Nat) → (down up : Front) → Nat × Nat
  | 0, _, _ => (b.top, b.start)
  | fuel + 1, down, up =>
    let down := down.widen b (-1)
    match stepDown r b odd up down.diagonals down with
    | .met x y => (x, y)
    | .on down =>
      let up := up.widen b (b.bottom + b.finish + 2)
      match stepUp r b (!odd) down up.diagonals up with
      | .met x y => (x, y)
      | .on up   => meeting r b odd fuel down up

/-- Which lines of both texts are changed. -/
structure Marks where
  left  : Array Bool
  right : Array Bool

/-- Marks with some lines of one text added. -/
def marked (lines : Array Bool) (first count : Nat) : Array Bool :=
  (List.range count).foldl (fun lines n => lines.setIfInBounds (first + n) true) lines

/-- Marks the lines of two parts that are changed. -/
def mark (r : Rows) : (fuel : Nat) → Box → Marks → Marks
  | 0, _, m => m
  | fuel + 1, b, m =>
    let n := r.ahead b b.top b.start
    let b := { b with top := b.top + n, start := b.start + n }
    let n := r.behind b b.bottom b.finish
    let b := { b with bottom := b.bottom - n, finish := b.finish - n }
    if b.top = b.bottom then { m with right := marked m.right b.start (b.finish - b.start) }
    else if b.start = b.finish then { m with left := marked m.left b.top (b.bottom - b.top) }
    else
      let first : Int := b.top - b.start
      let last : Int := b.bottom - b.finish
      let (x, y) := meeting r b ((first - last) % 2 != 0) (r.left.size + r.right.size + 1)
        (Front.ofPlace b first b.top) (Front.ofPlace b last b.bottom)
      mark r fuel { b with top := x, start := y }
        (mark r fuel { b with bottom := x, finish := y } m)

/-! ### Lines that mislead -/

/-- What becomes of a line in the search. -/
inductive Weight where
  | kept
  /-- It has no equal in the other text. -/
  | lost
  /-- It has too many equals there. -/
  | doubtful
deriving DecidableEq, Repr

/-- A number that grows like the square root of another: doubled for each power of four in it. -/
def rootBy (least : Nat) : (fuel : Nat) → Nat → Nat
  | 0, _ => least
  | fuel + 1, n => if n / 4 = 0 then least else 2 * rootBy least fuel (n / 4)

/-- Keeps doubtful lines where as many of them follow each other. -/
def keepLongRuns (least : Nat) (lines : List Weight) : List Weight :=
  (lines.splitBy (· == ·)).flatMap fun run =>
    if least ≤ run.length then run.map fun w => if w = .doubtful then .kept else w else run

/-- Keeps doubtful lines near the beginning, up to some lost ones. -/
def keepNear : (passed lost : Nat) → List Weight → List Weight
  | _, _, [] => []
  | passed, lost, w :: rest =>
    match w with
    | .lost =>
      if 8 ≤ passed || lost = 2 then w :: rest else w :: keepNear (passed + 1) (lost + 1) rest
    | _ => .kept :: keepNear (passed + 1) 0 rest

/-- What is left out of a run of lines that could be: doubtful ones only where they lie well inside
it and are few. -/
def settleRun (run : List Weight) : List Weight :=
  let isDoubtful (w : Weight) : Bool := w = .doubtful
  let before := run.takeWhile isDoubtful
  let inner := run.drop before.length
  let after := inner.reverse.takeWhile isDoubtful
  let inner := inner.take (inner.length - after.length)
  let doubtful := inner.countP isDoubtful
  let settled :=
    if doubtful = 0 then inner
    else if inner.length < doubtful * 4 then inner.map fun w => if w = .doubtful then .kept else w
    else
      let least := rootBy 1 inner.length (inner.length / 4) + 1
      (keepNear 0 0 (keepNear 0 0 (keepLongRuns least inner)).reverse).reverse
  before.map (fun _ => .kept) ++ settled ++ after.map fun _ => .kept

/-- What becomes of the lines of one text, each given by the number of its equals in the other. -/
def weigh (equals : List Nat) : List Weight :=
  let many := rootBy 5 equals.length (equals.length / 64)
  let first := equals.map fun n => if n = 0 then .lost else if many < n then .doubtful else .kept
  let runs := first.splitBy fun a b => (a == .kept) == (b == .kept)
  runs.flatMap fun run => if run.head? = some .kept then run else settleRun run

/-! ### Moving changes -/

/-- The first line from some line on that is not marked. -/
def pastRun (lines : Array Bool) (n : Nat) : Nat :=
  if h : n < lines.size then if lines[n] then pastRun lines (n + 1) else n else n
termination_by lines.size - n

/-- The first line of the marked ones that end before a line. -/
def runStart (lines : Array Bool) : Nat → Nat
  | 0     => 0
  | n + 1 => if lines.getD n false then runStart lines n else n + 1

/-- The last line before a line that is not marked. -/
def lastUnmarked (lines : Array Bool) : Nat → Nat
  | 0     => 0
  | n + 1 => if lines.getD n false then lastUnmarked lines n else n

/-- A run of marked lines of one text: where it starts and ends, and the line of the other text at
its end. -/
structure Shift where
  own   : Array Bool
  start : Nat
  stop  : Nat
  other : Nat

/-- Moves a run up as far as it goes. -/
def Shift.up (forms : Array Nat) (others : Array Bool) : (fuel : Nat) → Shift → Shift
  | 0, s => s
  | fuel + 1, s =>
    if 0 < s.start && forms[s.start - 1]? = forms[s.stop - 1]? then
      let own := (s.own.setIfInBounds (s.start - 1) true).setIfInBounds (s.stop - 1) false
      Shift.up forms others fuel
        ⟨own, runStart own (s.start - 1), s.stop - 1, lastUnmarked others s.other⟩
    else s

/-- Moves a run down as far as it goes, and answers also the last place where a run of the other text
ends with it, if there is one. -/
def Shift.down (forms : Array Nat) (others : Array Bool) : (fuel : Nat) → Shift → Option Nat →
    Shift × Option Nat
  | 0, s, together => (s, together)
  | fuel + 1, s, together =>
    if s.stop < forms.size && forms[s.start]? = forms[s.stop]? then
      let own := (s.own.setIfInBounds s.start false).setIfInBounds s.stop true
      let stop := pastRun own (s.stop + 1)
      let other := pastRun others (s.other + 1)
      Shift.down forms others fuel ⟨own, s.start + 1, stop, other⟩
        (if other = s.other + 1 then together else some stop)
    else (s, together)

/-- Moves a run up and down until it does not grow any more. -/
def Shift.settle (forms : Array Nat) (others : Array Bool) : (fuel : Nat) → Shift → Shift × Option Nat
  | 0, s => (s, none)
  | fuel + 1, s =>
    let before := s.stop - s.start
    let s := s.up forms others (forms.size + 1)
    let together := if 0 < s.other && others.getD (s.other - 1) false then some s.stop else none
    let (s, together) := s.down forms others (forms.size + 1) together
    if s.stop - s.start = before then (s, together) else Shift.settle forms others fuel s

/-- Moves a run up to a place. -/
def Shift.back (others : Array Bool) (place : Nat) : (fuel : Nat) → Shift → Shift
  | 0, s => s
  | fuel + 1, s =>
    if place < s.stop then
      let own := (s.own.setIfInBounds (s.start - 1) true).setIfInBounds (s.stop - 1) false
      Shift.back others place fuel ⟨own, s.start - 1, s.stop - 1, lastUnmarked others s.other⟩
    else s

/-- Moves all runs of marked lines of one text from a line on, with the line of the other text that
belongs there. -/
def shiftRuns (forms : Array Nat) (others : Array Bool) : (fuel : Nat) → (own : Array Bool) →
    (line other : Nat) → Array Bool
  | 0, own, _, _ => own
  | fuel + 1, own, line, other =>
    if forms.size ≤ line then own
    else if !own.getD line false then
      shiftRuns forms others fuel own (line + 1) (pastRun others other + 1)
    else
      let s : Shift := ⟨own, line, pastRun own line, pastRun others other⟩
      let (s, together) := s.settle forms others (forms.size + 1)
      let s := match together with
        | some place => s.back others place (forms.size + 1)
        | none       => s
      shiftRuns forms others fuel s.own s.stop s.other

/-! ### Changes -/

/-- The changes that marks stand for, from two lines on. -/
def changesFrom (m : Marks) : (fuel : Nat) → (left right : Nat) → List Delta
  | 0, _, _ => []
  | fuel + 1, left, right =>
    if m.left.size ≤ left && m.right.size ≤ right then []
    else
      let leftEnd := pastRun m.left left
      let rightEnd := pastRun m.right right
      let rest := changesFrom m fuel (leftEnd + 1) (rightEnd + 1)
      if leftEnd = left && rightEnd = right then rest
      else ⟨left, right, leftEnd - left, rightEnd - right⟩ :: rest

/-- The number of lines at the beginning that two texts have in common. -/
def commonStart : List String → List String → Nat
  | a :: left, b :: right => if a = b then commonStart left right + 1 else 0
  | _, _ => 0

/-- The numbers of forms, each form having one from 1 on. -/
def numbersOf (forms : List String) (known : Std.HashMap String Nat) :
    List Nat × Std.HashMap String Nat :=
  let (numbers, known) := forms.foldl
    (fun (numbers, known) form =>
      match known[form]? with
      | some n => (n :: numbers, known)
      | none   => ((known.size + 1) :: numbers, known.insert form (known.size + 1)))
    (([] : List Nat), known)
  (numbers.reverse, known)

/-- How often each number below a bound occurs. -/
def countsOf (bound : Nat) (numbers : List Nat) : Array Nat :=
  numbers.foldl (fun counts n => counts.modify n (· + 1)) (Array.replicate bound 0)

/-- Marks for all lines of a text, from those of the lines that were searched. -/
def spread (weights : List Weight) (searched : Array Bool) : Array Bool :=
  let (marks, _) := weights.foldl
    (fun (marks, next) w =>
      if w = .kept then (marks.push (searched.getD next false), next + 1) else (marks.push true, next))
    ((#[] : Array Bool), 0)
  marks

/-- The changes that lead from the lines of one text to those of another. Lines that both texts begin
or end with are left alone but for those within the margin. In a thorough search no line is left
out. -/
def changes (thorough : Bool) (margin : Nat) (form : String → String) (left right : List String) :
    List Delta :=
  let same := commonStart left right
  let skipped := same - min same margin
  let left := left.drop skipped
  let right := right.drop skipped
  let same := commonStart left.reverse right.reverse
  let dropped := same - min same margin
  let (leftNumbers, known) := numbersOf ((left.take (left.length - dropped)).map form) ∅
  let (rightNumbers, known) := numbersOf ((right.take (right.length - dropped)).map form) known
  let leftCounts := countsOf (known.size + 1) leftNumbers
  let rightCounts := countsOf (known.size + 1) rightNumbers
  let weights (numbers : List Nat) (counts : Array Nat) : List Weight :=
    if thorough then numbers.map fun _ => .kept else weigh (numbers.map fun n => counts.getD n 0)
  let leftWeights := weights leftNumbers rightCounts
  let rightWeights := weights rightNumbers leftCounts
  let searched (numbers : List Nat) (weights : List Weight) : Array Nat :=
    ((numbers.zip weights).filterMap fun (n, w) => if w = .kept then some n else none).toArray
  let rows : Rows := ⟨searched leftNumbers leftWeights, searched rightNumbers rightWeights⟩
  let found := mark rows (rows.left.size + rows.right.size + 1) ⟨0, rows.left.size, 0, rows.right.size⟩
    ⟨Array.replicate rows.left.size false, Array.replicate rows.right.size false⟩
  let leftMarks := spread leftWeights found.left
  let rightMarks := spread rightWeights found.right
  let fuel := leftMarks.size + rightMarks.size + 1
  let leftMarks := shiftRuns leftNumbers.toArray rightMarks fuel leftMarks 0 0
  let rightMarks := shiftRuns rightNumbers.toArray leftMarks fuel rightMarks 0 0
  (changesFrom ⟨leftMarks, rightMarks⟩ fuel 0 0).map fun c =>
    { c with left := c.left + skipped, right := c.right + skipped }

end BoardConsole.Shell.Difference
