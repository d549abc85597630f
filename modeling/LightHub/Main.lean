/-
  The program: reads its command line, its environment and its settings file,
  and talks to the hub over a socket.

  What it decides is decided by `Invocation.step` and `Plan.converse`.  Lines of
  the hub are heard one after another, and the conversation is followed anew on
  the whole lines heard so far, until it asks for no more of them.
-/
import Std.Async.TCP
import Std.Async.Timer
import LightHub.CommandLine.Run

namespace LightHub.Program

open Std.Async

/-! ## Files -/

/-- What is found at a path. -/
def find (path : String) : IO (Except Absence (List UInt8)) := do
  try
    return .ok (← IO.FS.readBinFile path).data.toList
  catch
    | .noFileOrDirectory .. => return .error .missing
    | _ => return .error .blocked

/-- Does something, or fails with a fault. -/
def attempt (act : IO Unit) (e : SettingsFault) : ExceptT Fault IO Unit := do
  try
    act
  catch _ =>
    throw (.settings e)

/-- Writes the settings file. -/
def save (s : Settings) (path : String) : ExceptT Fault IO Unit := do
  match s.validate with
  | .ok _ => pure ()
  | .error e => throw e
  if let some folder := (Path.folders path).head? then
    attempt (IO.FS.createDirAll folder) (.uncreatable folder)
  attempt (IO.FS.writeBinFile path ⟨(Text.bytes s.render).toArray⟩) (.unwritable path)

/-! ## Sockets -/

/-- Waits for an action for a number of milliseconds, or for ever if it is 0. -/
def within {α : Type} (timeout : UInt64) (act : Async α) : Async (Option α) :=
  if timeout = 0 then some <$> act
  else Async.race (some <$> act) do
    sleep (Std.Time.Millisecond.Offset.ofNat timeout.toNat)
    return none

/-- Sends bytes, and tells whether that was in time. -/
def send (socket : TCP.Socket.Client) (s : Settings) (bs : List UInt8) : Async Bool := do
  if bs.isEmpty then return true
  return (← within s.writeTimeout (socket.send ⟨bs.toArray⟩)).isSome

/-- The bytes through the last newline. -/
def wholeLines (bs : List UInt8) : List UInt8 :=
  (bs.reverse.dropWhile (· ≠ 10)).reverse

/-- Follows a plan.  `heard` is what the hub has sent so far, `ended` whether that
    is all, and `sent` how many bytes it has been sent. -/
partial def follow (socket : TCP.Socket.Client) (s : Settings) (plan : Plan)
    (heard : List UInt8) (ended : Bool) (sent : Nat) : Async Conversation := do
  let unread := if ended then heard else wholeLines heard
  let session : Session := { version := s.protocol, unread }
  let broken : Conversation :=
    { lines := plan.announcement, fault := some (.transport .socket), sent := [] }
  match plan.exchange.on session, ended with
  | (.error (.transport .ended), after), false =>
    if !(← send socket s (after.sink.written.drop sent)) then return broken
    match ← within s.readTimeout (socket.recv? 4096) with
    | none =>
      let _ ← send socket s (after.drop.sink.written.drop after.sink.written.length)
      return broken
    | some none => follow socket s plan heard true after.sink.written.length
    | some (some bytes) =>
      follow socket s plan (heard ++ bytes.data.toList) false after.sink.written.length
  | _, _ =>
    let conversation := plan.converse session
    if ← send socket s (conversation.sent.drop sent) then return conversation else return broken

/-- Connects to the hub, and follows a plan. -/
def connect (s : Settings) (plan : Plan) : IO Conversation := do
  try
    Async.block do
      let socket ← TCP.Socket.Client.mk
      socket.connect s.hub
      socket.noDelay
      for line in plan.announcement do
        IO.println line
      let conversation ← follow socket s plan [] false 0
      socket.shutdown
      return { conversation with lines := conversation.lines.drop plan.announcement.length }
  catch _ =>
    return { lines := [], fault := some (.transport .socket), sent := [] }

/-! ## Runs -/

/-- What help is given. -/
def usage : String :=
  "\n".intercalate
    ["Usage: kisslight-cli [-c PATH] [--hub ADDR] [-v] <action>",
      "",
      "Actions: toggle NAME | set NAME CMD [ARG] | send TARGET PAYLOAD | scan | list",
      "         | add device NAME TOPIC TYPE [COMMANDS] | add scan NAME",
      "         | add code NAME CODE PULSE | add pair NAME ON OFF PULSE",
      "         | delete NAME | status NAME | update name NAME NEW-NAME",
      "         | update topic NAME TOPIC | update state NAME | ip ADDR | port PORT"]

/-- Shows a fault. -/
def fail (e : Fault) : IO UInt32 := do
  IO.eprintln ("Error: " ++ e.message)
  return 1

/-- Runs a command line that has been read. -/
def perform (inv : Invocation) : IO UInt32 := do
  let path := inv.path (← IO.getEnv "KISSLIGHT_CONFIG") (← IO.getEnv "HOME")
  match Settings.ofContent path (← find path) >>= inv.step with
  | .error e => fail e
  | .ok (.save s line) =>
    match ← (save s path).run with
    | .error e => fail e
    | .ok _ =>
      IO.println line
      return 0
  | .ok (.connect s plan) =>
    let conversation ← connect s plan
    for line in conversation.lines do
      IO.println line
    match conversation.fault with
    | none => return 0
    | some e => fail e

end LightHub.Program

open LightHub in
/-- Runs the program. -/
def main (args : List String) : IO UInt32 := do
  match Invocation.parse args with
  | .ok inv => Program.perform inv
  | .error .version =>
    IO.println Report.versionLine
    return 0
  | .error .help =>
    IO.println Program.usage
    return 0
  | .error .invalid =>
    IO.eprintln Program.usage
    return 1
