/-
  Sessions: one connection to a hub, from the first request to the quit line.

  * `Sink`: what has been written, and how much more can be.
  * `Session`: the version, the bytes of the hub that are still unread, the
    sink, and whether the quit line has been attempted.
  * `Exchange`: a computation on a session that may fail.  The session goes on
    after a failure, with whatever was read and written before it.
  * `Session.send`, `Session.request`, `Session.readReply`, `Session.readBody`:
    the steps of an exchange.  A request in a form that the hub would misread,
    or with an argument that does not fit, is refused before anything is
    written.
  * `Session.close`, `Session.drop`: the quit line goes out once, also if the
    session is given up without having been closed.
-/
import LightHub.Stream.Body
import LightHub.Wire.Checks

namespace LightHub

/-! ## Sinks -/

/-- The writing end of a connection. -/
structure Sink where
  written : List UInt8 := []
  /-- How many more bytes are taken, if there is a limit -/
  room : Option Nat := none
  flushFails : Bool := false
  deriving DecidableEq

namespace Sink

/-- Writes bytes.  What does not fit is cut off, and that is an error. -/
def write (bs : List UInt8) (s : Sink) : Except Fault Unit × Sink :=
  match s.room with
  | none => (.ok (), { s with written := s.written ++ bs })
  | some n =>
    let result := if bs.length ≤ n then .ok () else .error (.transport .full)
    (result, { s with written := s.written ++ bs.take n, room := some (n - bs.length) })

/-- Flushes.  Bytes written before stay written if that fails. -/
def flush (s : Sink) : Except Fault Unit :=
  if s.flushFails then .error (.transport .flush) else .ok ()

end Sink

/-! ## Sessions -/

structure Session where
  version : Version
  /-- The other end, for messages -/
  peer : String := "hub"
  unread : List UInt8 := []
  sink : Sink := {}
  /-- Whether the quit line has been attempted -/
  closed : Bool := false
  deriving DecidableEq

/-- A computation on a session that may fail. -/
abbrev Exchange := ExceptT Fault (StateM Session)

namespace Exchange

/-- The outcome of a computation, and the session after it. -/
def on {α : Type} (x : Exchange α) (s : Session) : Except Fault α × Session :=
  x.run.run s

/-- A result that does not depend on the session. -/
def ofResult {α : Type} (r : Except Fault α) : Exchange α :=
  ExceptT.mk (pure r)

/-- Reads from the unread bytes. -/
def reading {α : Type} (read : List UInt8 → Except Fault α × List UInt8) : Exchange α :=
  ExceptT.mk fun s =>
    let (result, unread) := read s.unread
    (result, { s with unread })

/-- Writes bytes and flushes. -/
def writing (bs : List UInt8) : Exchange Unit :=
  ExceptT.mk fun s =>
    let (result, sink) := s.sink.write bs
    (result.bind fun _ => sink.flush, { s with sink })

end Exchange

namespace Session

open Exchange

/-- Writes one request line, if its arguments fit. -/
def write (c : Command) : Exchange Unit := do
  let s ← get
  ofResult c.validate
  writing (Text.bytes (c.line s.version))

/-- Writes one request line in a form that the hub reads as it is meant. -/
def send (c : Command) : Exchange Unit := do
  let s ← get
  ofResult (c.checkGeneration s.version)
  write c

/-- Reads one reply line. -/
def readReply : Exchange Reply :=
  reading Stream.readReply

/-- Reads the body that follows a header. -/
def readBody (ending : BodyEnd) : Exchange (List String) :=
  reading (Stream.readBody ending)

/-- Writes a request and reads its reply. -/
def request (c : Command) : Exchange Reply := do
  send c
  readReply

/-- Writes the quit line, unless that has been attempted before. -/
def close : Exchange Unit := do
  let s ← get
  if s.closed then return ()
  else
    set { s with closed := true }
    writing (Text.bytes Command.quitLine)

/-- The session after its owner has let go of it. -/
def drop (s : Session) : Session :=
  (close.on s).2

end Session

end LightHub
