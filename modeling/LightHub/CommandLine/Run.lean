/-
  One run of the command line.

  * `Step`, `Invocation.step`: what is left to do once the settings file has been
    read: write it anew, or connect to a hub and follow a plan.
  * `Conversation`, `Plan.converse`: a plan followed on a session, from the first
    request to the quit line.
  * `Machine`: what a run depends on: the environment, the files, and the hubs
    that take connections.
  * `Report`, `run`: what a run shows, whether it succeeds, what the hub has
    received, and the files after it.
-/
import LightHub.CommandLine.Arguments
import LightHub.CommandLine.Plan
import LightHub.Settings.File

namespace LightHub

open Std.Net

/-! ## Steps -/

/-- What is left to do once the settings file has been read. -/
inductive Step where
  /-- Writes the settings file, and shows a line -/
  | save (s : Settings) (line : String)
  /-- Connects to the hub, and follows the plan -/
  | connect (s : Settings) (plan : Plan)
  deriving DecidableEq

/-- The settings after an edit, and the line that tells of it. -/
def Edit.apply (e : Edit) (s : Settings) : Except Fault Step :=
  match e with
  | ip text => do
    let s ← s.setAddress text
    return .save s ("Hub IP set to " ++ Net.ipText s.hubIP ++ ".")
  | port n => do
    let s ← s.setPort n
    return .save s ("Hub port set to " ++ toString s.hubPort.toNat ++ ".")

namespace Invocation

/-- The path of the settings file. -/
def path (inv : Invocation) (configured home : Option String) : String :=
  inv.config.getD (Settings.defaultPath configured home)

/-- What is left to do with the settings of the file.  The hub of the options is
    used in place of the configured one, and is not saved. -/
def step (inv : Invocation) (s : Settings) : Except Fault Step :=
  match inv.action with
  | .edit e => e.apply s
  | .task t => do
    let s := match inv.hub with
      | some hub => s.setHub hub
      | none => s
    return .connect s (← Plan.ofTask s.protocol t)

end Invocation

/-! ## Conversations -/

/-- A plan that has been followed to its end. -/
structure Conversation where
  lines : List String
  /-- What went wrong, if anything -/
  fault : Option Fault
  /-- All that was sent -/
  sent : List UInt8
  deriving DecidableEq

/-- Follows a plan on a session, and ends the session. -/
def Plan.converse (plan : Plan) (s : Session) : Conversation :=
  let (result, s) := plan.exchange.on s
  match result with
  | .ok lines =>
    let (closed, s) := Session.close.on s
    let fault := match closed with
      | .ok _ => none
      | .error e => some e
    { lines := plan.announcement ++ lines, fault, sent := s.drop.sink.written }
  | .error e => { lines := plan.announcement, fault := some e, sent := s.drop.sink.written }

/-! ## Runs -/

/-- What a run depends on. -/
structure Machine where
  /-- Where the environment says that the settings file is -/
  configured : Option String
  /-- The home folder that the environment names -/
  home : Option String
  shelf : Shelf
  /-- All that the hub at an address sends; none if connections to it are refused -/
  dial : SocketAddress → Option (List UInt8)

/-- How a run ends. -/
inductive Verdict where
  | success
  | failure (e : Fault)
  /-- The arguments ask for nothing that can be run -/
  | stopped (why : Stop)
  deriving DecidableEq

/-- What a run leaves behind. -/
structure Report where
  lines : List String
  verdict : Verdict
  /-- What the hub has received, if it was connected to -/
  received : Option (List UInt8)
  shelf : Shelf

namespace Report

/-- The name and the version of the program. -/
def versionLine : String := "kisslight-cli 0.1.0"

/-- Help and the version are asked for; all else that stops a run is an error. -/
def exitCode (r : Report) : Nat :=
  match r.verdict with
  | .success | .stopped .help | .stopped .version => 0
  | .failure _ | .stopped .invalid => 1

end Report

/-- Runs a command line on a machine. -/
def run (args : List String) (m : Machine) : Report :=
  let quiet verdict : Report := { lines := [], verdict, received := none, shelf := m.shelf }
  match Invocation.parse args with
  | .error .version => { quiet (.stopped .version) with lines := [Report.versionLine] }
  | .error why => quiet (.stopped why)
  | .ok inv =>
    let path := inv.path m.configured m.home
    match Settings.load path m.shelf >>= inv.step with
    | .error e => quiet (.failure e)
    | .ok (.save s line) =>
      match s.save path m.shelf with
      | (.ok _, shelf) => { quiet .success with lines := [line], shelf }
      | (.error e, shelf) => { quiet (.failure e) with shelf }
    | .ok (.connect s plan) =>
      match m.dial s.hub with
      | none => quiet (.failure (.transport .socket))
      | some heard =>
        let c := plan.converse { version := s.protocol, unread := heard }
        let verdict := match c.fault with
          | none => .success
          | some e => .failure e
        { quiet verdict with lines := c.lines, received := some c.sent }

end LightHub
