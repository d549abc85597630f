/-
  The settings of a client: where the hub is, and how to talk to it.

  * `Settings`, `Settings.default`: the settings, and what they are when nothing
    is configured.
  * `Settings.validate`: a port that can be connected to.
  * `Settings.readVersion`: a protocol version from its text.
  * `Settings.setAddress`, `Settings.setPort`: changes from the command line.
  * `Settings.render`: the settings as a JSON text.
-/
import LightHub.Fault
import LightHub.Net.Address
import LightHub.Text.Blank

namespace LightHub

open Std.Net

structure Settings where
  hubIP : IPAddr
  hubPort : UInt16
  protocol : Version
  /-- In milliseconds; 0 waits for ever -/
  readTimeout : UInt64
  /-- In milliseconds; 0 waits for ever -/
  writeTimeout : UInt64
  deriving DecidableEq

namespace Settings

/-- The settings when nothing is configured. -/
def default : Settings where
  hubIP := .v4 (.ofParts 127 0 0 1)
  hubPort := 1155
  protocol := .current
  readTimeout := 30000
  writeTimeout := 5000

/-- Where the hub listens. -/
def hub (s : Settings) : SocketAddress :=
  Net.socket s.hubIP s.hubPort

/-- Moves the hub to another address and port. -/
def setHub (hub : SocketAddress) (s : Settings) : Settings :=
  { s with hubIP := Net.socketIP hub, hubPort := Net.socketPort hub }

/-- Port 0 cannot be connected to. -/
def validate (s : Settings) : Except Fault Unit :=
  if s.hubPort = 0 then .error (.settings .zeroPort) else .ok ()

/-- Reads the text of a protocol version. -/
def readVersion (text : String) : Except Fault Version :=
  match Version.parse? text with
  | some v => .ok v
  | none => .error (.settings (.invalidVersion text))

/-- Sets the hub's address from its text, which may have blanks around it. -/
def setAddress (text : String) (s : Settings) : Except Fault Settings :=
  match Net.parseIP? (Text.trim text) with
  | some ip => .ok { s with hubIP := ip }
  | none => .error (.usage (.invalidAddress text))

/-- Sets the hub's port. -/
def setPort (port : UInt16) (s : Settings) : Except Fault Settings :=
  if port = 0 then .error (.usage .zeroPort) else .ok { s with hubPort := port }

/-- The settings as a JSON object, one member a line, with a newline after it.
    The texts of addresses and versions need no escapes. -/
def render (s : Settings) : String :=
  "\x7b\n  \"hub_ip\": \"" ++ Net.ipText s.hubIP ++
    "\",\n  \"hub_port\": " ++ toString s.hubPort.toNat ++
    ",\n  \"protocol\": \"" ++ s.protocol.text ++
    "\",\n  \"read_timeout_ms\": " ++ toString s.readTimeout.toNat ++
    ",\n  \"write_timeout_ms\": " ++ toString s.writeTimeout.toNat ++
    "\n\x7d\n"

end Settings

end LightHub
