/-
  What a task comes to, once connected.

  * `Plan`: the exchange that a task stands for.
  * `Plan.ofTask`: the plan of a task at a hub of a version.  A request that the
    hub would misread, or with an argument that does not fit, has none, so that
    nobody is connected to for its sake.
  * `Plan.announcement`, `Plan.exchange`: the lines shown before the exchange,
    and the exchange, with the lines shown when it has succeeded.
-/
import LightHub.Client
import LightHub.CommandLine.Invocation

namespace LightHub

/-- The exchange that a task stands for. -/
inductive Plan where
  | plain (c : Command)
  | sniff
  /-- Captures a code, and adds its device -/
  | addScan (name : String)
  /-- Adds a device by one of its codes -/
  | addCode (device : Registration)
  /-- Adds a device by both of its codes -/
  | addPair (device : Registration)
  deriving DecidableEq

namespace Plan

/-- Whether the request may be sent to hubs of version `v`. -/
def checked (v : Version) (c : Command) : Except Fault Unit := do
  c.validate
  c.checkGeneration v

/-- Reads a number that an argument has to be. -/
def readNumber {α : Type} (read : List Char → Option α) (what : Quantity) (text : String) :
    Except Fault α :=
  match read text.toList with
  | some n => .ok n
  | none => .error (.usage (.notAnInteger what text))

/-- The request of a `send`, in the form that hubs of version `v` speak. -/
def sending (v : Version) (target payload : String) : Except Fault Command :=
  match v.generation with
  | .mqtt => .ok (.transmit target payload)
  | .rf => do
    let code ← readNumber Text.int64? .code target
    let pulse ← readNumber Text.uint32? .pulse payload
    return .transmitCode code pulse

/-- The request that adds a device whose type is given as text. -/
def adding (name topic type : String) (commands : Option String) : Except Fault Command :=
  match DeviceType.parse type with
  | .ok type => .ok (.addDevice name topic type commands)
  | .error e => .error (.usage (.unknownDeviceType e))

/-- The plan of a single request. -/
def plainly (v : Version) (c : Command) : Except Fault Plan := do
  checked v c
  return .plain c

/-- The plan of a task at hubs of version `v`. -/
def ofTask (v : Version) : Task → Except Fault Plan
  | .toggle name => plainly v (.toggle name)
  | .set name command arg => plainly v (.set name command arg)
  | .send target payload => do plainly v (← sending v target payload)
  | .addDevice name topic type commands => do plainly v (← adding name topic type commands)
  | .addScan name => do
    Command.sniff.checkGeneration v
    return .addScan name
  | .addCode name code pulse => do
    let device ← Registration.ofLearned name ⟨code, pulse⟩
    checked v device.command
    return .addCode device
  | .addPair name on off pulse => do
    let device ← Registration.ofCodes name on off pulse
    checked v device.command
    return .addPair device
  | .scan => do
    Command.sniff.checkGeneration v
    return .sniff
  | .delete name => plainly v (.delete name)
  | .status name => plainly v (.status name)
  | .list => plainly v .list
  | .rename name newName => plainly v (.update .name name (some newName))
  | .move name topic => plainly v (.update .topic name (some topic))
  | .refresh name => plainly v (.update .state name none)

/-! ## Exchanges -/

/-- Lines below a heading. -/
def below (heading : String) (lines : List String) : List String :=
  heading :: lines.map ("  " ++ ·)

/-- The lines shown when a request has succeeded. -/
def shown (c : Command) (o : Outcome) : List String :=
  match c, o with
  | .list, .lines _ [] => ["No devices registered."]
  | .list, .lines _ lines => below (toString lines.length ++ " device(s):") lines
  | .status name, .lines _ lines => below (name ++ ":") lines
  | .toggle name, _ => ["Device " ++ name ++ " toggled."]
  | .delete name, _ => ["Device " ++ name ++ " deleted."]
  | .addDevice name .., _ => ["Device " ++ name ++ " added."]
  | .transmit topic message, _ => ["Sent " ++ message ++ " to " ++ topic ++ "."]
  | .transmitCode code pulse, _ =>
    ["Sent code " ++ toString code.toInt ++ " with pulse " ++ toString pulse.toNat ++ "."]
  | _, o => [o.reply.reason]

/-- The line shown when a code has been captured. -/
def shownLearned (l : Learned) : String :=
  let role := match classify l.code with
    | some .on => "On was scanned."
    | some .off => "Off was scanned."
    | none => "Code is invalid."
  "Scanning successful, Code=" ++ toString l.code.toInt ++ ", Pulse=" ++ toString l.pulse.toNat ++
    ", " ++ role

/-- The line shown when a radio device has been added. -/
def shownAdded (r : Registration) : String :=
  "Device " ++ r.name ++ " added (on " ++ toString r.on.toInt ++ ", off " ++
    toString r.off.toInt ++ ", pulse " ++ toString r.pulse.toNat ++ ")."

/-- The lines shown before the exchange. -/
def announcement : Plan → List String
  | sniff | addScan _ => ["Scanning, press the button on the remote now..."]
  | _ => []

/-- The exchange, with the lines shown when it has succeeded. -/
def exchange : Plan → Exchange (List String)
  | plain c => shown c <$> Client.execute c
  | sniff => (fun l => [shownLearned l]) <$> Client.scan
  | addScan name => (fun r => [shownAdded r]) <$> Client.addByScan name
  | addCode r => (fun r => [shownAdded r]) <$> Client.addCode r.name r.on r.pulse
  | addPair r => (fun r => [shownAdded r]) <$> Client.addPair r.name r.on r.off r.pulse

end Plan

end LightHub
