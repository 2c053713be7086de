import BoardConsole.Output.Sink
import BoardConsole.Text.Utf8

/-!
# Output — The router

Output goes to the console, byte by byte and flushed after each, or to the sink of a redirect. A
redirect keeps the route beneath it, together with the first write failure recorded there, and its
ending puts both back. Redirects may end in any order; only the first ending of one has an effect.
-/

namespace BoardConsole

/-- The number of a sink of a router. -/
abbrev SinkId := Nat

/-- Where output goes, and every sink it ever went to. -/
structure Router where
  /-- The console first, then the sink of each redirect, in the order they were made. -/
  sinks : List Sink
  /-- The sink that output is redirected to. -/
  route : Option SinkId
  /-- The first write failure on the current route. -/
  fault : Option WriteFault

/-- The route beneath a redirect, and the first write failure on it. -/
structure Saved where
  route : Option SinkId
  fault : Option WriteFault
deriving DecidableEq, Repr

/-- A redirect: what its ending puts back, until it has ended. -/
structure Redirect where
  saved : Option Saved
deriving DecidableEq, Repr

namespace Router

/-- A router to a console. -/
def toConsole (console : Sink) : Router := ⟨[console], none, none⟩

def isRedirected (r : Router) : Bool := r.route.isSome

/-- The router in words. -/
def debugText (r : Router) : String :=
  "OutputRouter \x7b redirected: " ++ toString r.isRedirected ++ ", .. \x7d"

/-- The bytes that a sink has taken. -/
def bytesOf (r : Router) (id : SinkId) : List UInt8 :=
  match r.sinks[id]? with
  | some sink => sink.bytes
  | none      => []

/-- Runs an operation of a sink. -/
def onSink (r : Router) (id : SinkId) (op : Sink → Option WriteFault × Sink) :
    Option WriteFault × Router :=
  match r.sinks[id]? with
  | some sink =>
    let (fault, sink) := op sink
    (fault, { r with sinks := r.sinks.set id sink })
  | none => (none, r)

/-- Writes each byte and flushes after it, until one of the two fails. -/
def writeFlushed (s : Sink) : List UInt8 → Option WriteFault × Sink
  | []        => (none, s)
  | b :: rest =>
    match s.writeAll [b] with
    | (some fault, s) => (some fault, s)
    | (none, s) =>
      match s.flush with
      | (some fault, s) => (some fault, s)
      | (none, s)       => writeFlushed s rest

/-- Emits bytes. Only a redirect keeps its first failure; the console's are passed over. -/
def emit (r : Router) (bytes : List UInt8) : Router :=
  match r.route with
  | some id =>
    let (fault, r) := r.onSink id (·.writeAll bytes)
    { r with fault := r.fault.or fault }
  | none => (r.onSink 0 (writeFlushed · bytes)).2

def emitByte (r : Router) (b : UInt8) : Router := r.emit [b]

def emitText (r : Router) (text : String) : Router := r.emit (Text.Utf8.encode text)

/-- Ends a line with CR LF. -/
def emitLineEnd (r : Router) : Router := r.emit [13, 10]

/-- Emits a line. -/
def emitLine (r : Router) (text : String) : Router := (r.emitText text).emitLineEnd

/-- Sends output to a sink from now on. -/
def redirect (r : Router) (sink : Sink) : Redirect × Router :=
  (⟨some ⟨r.route, r.fault⟩⟩,
    { sinks := r.sinks ++ [sink], route := some r.sinks.length, fault := none })

/-- Puts the route beneath a redirect back and closes the sink that output went to. Answers the
first write failure there was, or else the failure of the flush. -/
def restore (r : Router) (redirect : Redirect) : Option WriteFault × Redirect × Router :=
  match redirect.saved with
  | none => (none, redirect, r)
  | some saved =>
    let recorded := r.fault
    let (flushed, r) :=
      match r.route with
      | some id => r.onSink id Sink.close
      | none    => (none, r)
    (recorded.or flushed, ⟨none⟩, { r with route := saved.route, fault := saved.fault })

/-- Ends a redirect that goes out of use, unless it has ended; what went wrong is passed over. -/
def drop (r : Router) (redirect : Redirect) : Router := (r.restore redirect).2.2

/-- Ends a redirect and answers what went wrong. It goes out of use after that. -/
def finish (r : Router) (redirect : Redirect) : Option WriteFault × Router :=
  let (fault, ended, r) := r.restore redirect
  (fault, r.drop ended)

end Router

end BoardConsole
