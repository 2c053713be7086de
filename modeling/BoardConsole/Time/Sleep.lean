import BoardConsole.Time.Duration

/-!
# Time — Interrupted sleeps

A sleep may be interrupted; it is then resumed for the time that is reported as remaining, so that
an interruption never ends it early. A sleeper is described by the interruptions still to come; once
they are used up, sleeps last as long as asked.
-/

namespace BoardConsole

/-- How one call to sleep is interrupted. -/
inductive Interruption where
  /-- Reports this time as remaining, whatever was asked. -/
  | leaving (remaining : Duration)
  /-- Strikes after this time, or at the end of a shorter sleep. -/
  | striking (after : Duration)
deriving DecidableEq, Repr

/-- The time reported as remaining of a request. -/
def Interruption.remaining : Interruption → (request : Duration) → Duration
  | leaving remaining, _     => remaining
  | striking after, request  => request.minus after

/-- What a sleep comes to, however often it was interrupted. -/
structure Slept where
  /-- The requests made, in order. -/
  requests      : List Duration
  /-- The requests that were interrupted, in a counter that wraps. -/
  interruptions : UInt32
  /-- The time slept: of each request the part that did not remain. -/
  total         : Duration
  /-- The interruptions that did not strike. -/
  unused        : List Interruption
deriving Repr

/-- Sleeps for the whole of a duration. -/
def sleepFor (d : Duration) : List Interruption → Slept
  | [] => if d.isZero then ⟨[], 0, .zero, []⟩ else ⟨[d], 0, d, []⟩
  | i :: is =>
    if d.isZero then ⟨[], 0, .zero, i :: is⟩
    else
      let left := i.remaining d
      let rest := sleepFor left is
      { rest with
        requests      := d :: rest.requests
        interruptions := rest.interruptions + 1
        total         := (d.minus left).plus rest.total }

end BoardConsole
