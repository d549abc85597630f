/-
  One logical request against a hub, and whether it succeeded.

  * `Command.accepted`: the statuses that count as success for a request: 200
    and, for most, one of its own.
  * `Command.rejection`: what a rejected request was meant to do, in words.
  * `Outcome`: a reply, with the body for the requests that have one.
  * `Client.execute`: makes a request and checks its reply.
  * `Client.scan`, `Client.addByScan`, `Client.addCode`, `Client.addPair`: the
    exchanges that learn a remote.
-/
import LightHub.Remote.Learner

namespace LightHub

namespace Command

/-- The statuses that count as success. -/
def accepted : Command → List Status
  | toggle .. => [.ok]
  | set .. => [.ok, .stateSet]
  | transmit .. | transmitCode .. => [.ok, .transmitted]
  | addDevice .. | addCodes .. => [.ok, .deviceAdded]
  | delete .. => [.ok, .deviceDeleted]
  | sniff => [.ok]
  | list => [.ok, .deviceList]
  | status .. => [.ok, .deviceStatus]
  | update .name .. => [.ok, .nameUpdated]
  | update .topic .. => [.ok, .topicUpdated]
  | update .state .. => [.ok, .stateUpdated]
  | quit => [.ok, .goodbye]

/-- What a request with this reply status was meant to do. -/
def rejection (c : Command) (s : Status) : String :=
  match c with
  | toggle name => "unable to toggle device " ++ name
  | set name command _ => "unable to set " ++ Text.upper command ++ " on device " ++ name
  | transmit topic _ => "unable to transmit to topic " ++ topic
  | transmitCode code _ => "unable to transmit code " ++ toString code.toInt
  | addDevice name .. | addCodes name .. => "unable to add device " ++ name
  | delete name => "unable to delete device " ++ name
  | sniff => "unable to scan"
  | list => "unable to list devices"
  | status name =>
    if s = .noPermission then "no permission to read status of " ++ name
    else "unable to get status of " ++ name
  | update field name _ =>
    "unable to update " ++ Text.lower field.keyword ++ " of device " ++ name
  | quit => "hub did not acknowledge quit"

end Command

/-! ## Plain requests -/

/-- What a request that succeeded has brought. -/
inductive Outcome where
  | done (reply : Reply)
  | lines (header : Reply) (lines : List String)
  deriving DecidableEq

namespace Outcome

/-- The reply line. -/
def reply : Outcome → Reply
  | done r | lines r _ => r

/-- The body; a bare reply has none. -/
def body : Outcome → List String
  | done _ => []
  | lines _ ls => ls

end Outcome

namespace Client

/-- Whether the reply's status is one that the request accepts. -/
def check (c : Command) (r : Reply) : Except Fault Unit :=
  if r.status ∈ c.accepted then .ok ()
  else .error (.rejected c.verb r.status (c.rejection r.status))

/-- How the body after a list header ends.  A header in the layout of a counted
    list counts the lines; any other one leaves them to the sentinel. -/
def listEnd (header : Reply) : Except Fault BodyEnd :=
  match Layout.listHeader.extract header with
  | .ok fields => (fields.number Text.uint64? "count").map fun n => .count n.toNat
  | .error _ => .ok .sentinel

/-- Makes a request, checks the status of its reply and, for a list or the
    status of a device, reads the body. -/
def execute (c : Command) : Exchange Outcome := do
  let r ← Session.request c
  Exchange.ofResult (check c r)
  match c with
  | .list => do
    let ending ← Exchange.ofResult (listEnd r)
    return .lines r (← Session.readBody ending)
  | .status _ => return .lines r (← Session.readBody .sentinel)
  | _ => return .done r

/-- Makes a request for the sake of its reply line. -/
def perform (c : Command) : Exchange Reply :=
  Outcome.reply <$> execute c

def toggle (name : String) : Exchange Reply :=
  perform (.toggle name)

def set (name command : String) (arg : Option String) : Exchange Reply :=
  perform (.set name command arg)

def transmit (topic message : String) : Exchange Reply :=
  perform (.transmit topic message)

def transmitCode (code : Int64) (pulse : UInt32) : Exchange Reply :=
  perform (.transmitCode code pulse)

def addDevice (name topic : String) (type : DeviceType) (commands : Option String) :
    Exchange Reply :=
  perform (.addDevice name topic type commands)

def delete (name : String) : Exchange Reply :=
  perform (.delete name)

def update (field : RecordField) (name : String) (value : Option String) : Exchange Reply :=
  perform (.update field name value)

/-- The registered devices, one line each. -/
def list : Exchange (List String) :=
  Outcome.body <$> execute .list

/-- The state of a device, line by line. -/
def status (name : String) : Exchange (List String) :=
  Outcome.body <$> execute (.status name)

/-! ## Remotes -/

/-- Captures a code, and adds nothing. -/
def scan : Exchange Learned :=
  (Learner.start "scan").sniff

/-- Captures a code, and adds the device of its button. -/
def addByScan (name : String) : Exchange Registration :=
  (Learner.start name).run

/-- Adds the device of the button that a code belongs to. -/
def addCode (name : String) (code : Int64) (pulse : UInt32) : Exchange Registration :=
  (Learner.ofLearned name ⟨code, pulse⟩).run

/-- Adds the device of a pair of codes. -/
def addPair (name : String) (on off : Int64) (pulse : UInt32) : Exchange Registration := do
  let device ← Exchange.ofResult (Registration.ofCodes name on off pulse)
  (Learner.ofRegistration device).run

end Client

end LightHub
