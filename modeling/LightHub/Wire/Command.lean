/-
  The requests that a client makes of a hub.

  * `Command`: the requests, with their arguments.
  * `Verb`: the keyword that a request line starts with; `Command.verb`.
  * `Command.subject`: the device name or topic that a request is about.
  * `Command.generation`: the family of hubs that a request form belongs to, if
    the families do not share it.
  * `Command.args`, `Command.line`: the arguments as they travel, and the whole
    request line, newline included.
-/
import LightHub.Text.Letters
import LightHub.Wire.DeviceType
import LightHub.Wire.Version

namespace LightHub

/-! ## Verbs and fields -/

inductive Verb where
  | toggle
  | set
  | transmit
  | add
  | delete
  | sniff
  | list
  | status
  | update
  | quit
  deriving DecidableEq

/-- The keyword of a verb on the wire. -/
def Verb.keyword : Verb → String
  | toggle => "TOGGLE"
  | set => "SET"
  | transmit => "TRANSMIT"
  | add => "ADD"
  | delete => "DELETE"
  | sniff => "SNIFF"
  | list => "LIST"
  | status => "STATUS"
  | update => "UPDATE"
  | quit => "Q"

/-- The part of a device record that an update changes. -/
inductive RecordField where
  | name
  | topic
  /-- Asks the hub to look the state up again -/
  | state
  deriving DecidableEq

/-- The keyword of a field on the wire. -/
def RecordField.keyword : RecordField → String
  | name => "NAME"
  | topic => "TOPIC"
  | state => "STATE"

/-- Whether an update of the field carries a new value. -/
def RecordField.takesValue : RecordField → Bool
  | state => false
  | _ => true

/-! ## Commands -/

inductive Command where
  /-- Flips the power state of a device -/
  | toggle (name : String)
  /-- Sends a device command, such as `POWER ON` or `DIMMER 40` -/
  | set (name command : String) (arg : Option String)
  /-- Publishes a message on a topic -/
  | transmit (topic message : String)
  /-- Sends a raw radio code -/
  | transmitCode (code : Int64) (pulse : UInt32)
  /-- Registers a device that listens on a topic -/
  | addDevice (name topic : String) (type : DeviceType) (commands : Option String)
  /-- Registers a radio device by its pair of codes -/
  | addCodes (name : String) (on off : Int64) (pulse : UInt32)
  | delete (name : String)
  /-- Has the hub listen for one radio code -/
  | sniff
  | list
  | status (name : String)
  | update (field : RecordField) (name : String) (value : Option String)
  /-- Ends the session -/
  | quit
  deriving DecidableEq

namespace Command

def verb : Command → Verb
  | toggle .. => .toggle
  | set .. => .set
  | transmit .. | transmitCode .. => .transmit
  | addDevice .. | addCodes .. => .add
  | delete .. => .delete
  | sniff => .sniff
  | list => .list
  | status .. => .status
  | update .. => .update
  | quit => .quit

/-- The device name or the topic that a request is about. -/
def subject : Command → Option String
  | toggle name | set name _ _ | addDevice name _ _ _ | addCodes name _ _ _ | delete name
  | status name | update _ name _ => some name
  | transmit topic _ => some topic
  | transmitCode .. | sniff | list | quit => none

/-- The family of hubs that a request form belongs to, unless both speak it. -/
def generation : Command → Option Generation
  | transmitCode .. | addCodes .. | sniff => some .rf
  | transmit .. | addDevice .. => some .mqtt
  | _ => none

/-- The request form, as messages show it. -/
def form : Command → String
  | transmitCode .. => "TRANSMIT <code> <pulse>"
  | transmit .. => "TRANSMIT <topic> <message>"
  | addCodes .. => "ADD <name> <on> <off> <pulse>"
  | addDevice .. => "ADD <name> <topic> <type>"
  | c => c.verb.keyword

/-! ## Request lines -/

/-- The arguments of a request as they travel: a device command and its
    argument in upper case, a device type and codes as decimal numbers. -/
def args : Command → List String
  | toggle name | delete name | status name => [name]
  | set name command arg => [name, Text.upper command] ++ (arg.map Text.upper).toList
  | transmit topic message => [topic, message]
  | transmitCode code pulse => [toString code.toInt, toString pulse.toNat]
  | addDevice name topic type commands => [name, topic, toString type.id] ++ commands.toList
  | addCodes name on off pulse =>
    [name, toString on.toInt, toString off.toInt, toString pulse.toNat]
  | update field name value => [field.keyword, name] ++ value.toList
  | sniff | list | quit => []

/-- The line that ends a session.  It carries no version. -/
def quitLine : String := "Q\n"

/-- Words with one space before each. -/
def spaced : List String → String
  | [] => ""
  | w :: ws => " " ++ w ++ spaced ws

/-- The request line: the keyword, the arguments and the version, with single
    spaces between them and a newline after them.  Only `quit` is bare. -/
def line (c : Command) (v : Version) : String :=
  match c with
  | quit => quitLine
  | c => c.verb.keyword ++ spaced (c.args ++ [v.text]) ++ "\n"

end Command

end LightHub
