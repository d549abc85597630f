/-
  What can go wrong, by cause.

  * `UsageFault`: an argument that no request or setting can be made from.
  * `TransportFault`: a connection that cannot be made, read or written.
  * `MalformedReply`: a reply that is not in the hub's format.
  * `SettingsFault`: settings that cannot be read, understood or written.
  * `Fault`: all of these, with a request that the hub rejects and a radio code
    that is no half of a pair.
  * `Fault.message`: the one place where faults are put into words.
-/
import LightHub.Text.Quoted
import LightHub.Wire.Command
import LightHub.Wire.Status

namespace LightHub

open Text (quoted)

/-! ## Usage -/

/-- An argument that travels as one word. -/
inductive Argument where
  | deviceName
  | command
  | commandArgument
  | topic
  | message
  | commands
  | newValue
  deriving DecidableEq

def Argument.label : Argument → String
  | deviceName => "device name"
  | command => "command"
  | commandArgument => "argument"
  | topic => "topic"
  | message => "message"
  | commands => "commands"
  | newValue => "new value"

/-- An argument that is a number. -/
inductive Quantity where
  | code
  | pulse
  deriving DecidableEq

def Quantity.label : Quantity → String
  | code => "RF code"
  | pulse => "pulse"

inductive UsageFault where
  | empty (argument : Argument)
  | blank (argument : Argument) (value : String)
  | zeroPulse
  | commandsMissing (type : DeviceType)
  | commandsUnwanted (type : DeviceType)
  | valueMissing (field : RecordField)
  | valueUnwanted (field : RecordField)
  /-- A request form that hubs of the configured version would misread -/
  | wrongGeneration (form : String) (needed : Generation) (configured : Version)
  | unknownDeviceType (cause : DeviceType.Unknown)
  | notAnInteger (quantity : Quantity) (text : String)
  | invalidAddress (text : String)
  | zeroPort
  | learningFailed (name : String)
  | pastCapture (name : String)
  deriving DecidableEq

def UsageFault.message : UsageFault → String
  | empty argument => argument.label ++ " must not be empty"
  | blank argument value =>
    argument.label ++ " must not contain whitespace: " ++ quoted value
  | zeroPulse => "pulse length must be positive"
  | commandsMissing type => "device type " ++ type.name ++ " needs a commands argument"
  | commandsUnwanted type => "device type " ++ type.name ++ " takes no commands argument"
  | valueMissing field => "UPDATE " ++ field.keyword ++ " needs a new value"
  | valueUnwanted field => "UPDATE " ++ field.keyword ++ " takes no value"
  | wrongGeneration form needed configured =>
    form ++ " needs an " ++ needed.name ++ " hub, configured protocol is " ++ configured.text
  | unknownDeviceType (.id n) => "unknown device type id " ++ toString n
  | unknownDeviceType (.name text) => "unknown device type " ++ quoted text
  | notAnInteger quantity text => quantity.label ++ " must be an integer: " ++ quoted text
  | invalidAddress text => "invalid IP address: " ++ quoted text
  | zeroPort => "port must be between 1 and 65535"
  | learningFailed name => "learning for " ++ name ++ " already failed"
  | pastCapture name => "sniff for " ++ name ++ " is already past capture"

/-! ## Transport -/

inductive TransportFault where
  /-- The stream ended before a line -/
  | ended
  | notUtf8
  /-- The writer takes no more bytes -/
  | full
  | flush
  /-- The system cannot open, read or write the socket -/
  | socket
  deriving DecidableEq

/-- The words of a transport fault.  The system's own failures have none here. -/
def TransportFault.message? : TransportFault → Option String
  | ended => some "hub closed the connection"
  | notUtf8 => some "stream did not contain valid UTF-8"
  | full => some "write limit reached"
  | flush => some "flush failed"
  | socket => none

/-! ## Replies -/

inductive MalformedReply where
  | tooFewTokens (line : String)
  | statusNotNumber (token : String)
  | statusOutOfRange (token : String)
  | bodyEnded (got expected : Nat)
  | tokensMissing (layout : String) (expected got : Nat)
  | labelMismatch (layout label : String) (position : Nat) (token : String)
  | noField (layout field : String)
  | notNumber (layout field token : String)
  deriving DecidableEq

def MalformedReply.message : MalformedReply → String
  | tooFewTokens line => "expected at least 2 tokens, got " ++ quoted line
  | statusNotNumber token => "status is not a number: " ++ quoted token
  | statusOutOfRange token => "status out of range: " ++ quoted token
  | bodyEnded got expected =>
    "body ended after " ++ toString got ++ " of " ++ toString expected ++ " lines"
  | tokensMissing layout expected got =>
    layout ++ ": expected " ++ toString expected ++ " tokens after status, got " ++ toString got
  | labelMismatch layout label position token =>
    layout ++ ": expected " ++ quoted label ++ " at token " ++ toString position ++ ", got " ++
      quoted token
  | noField layout field => layout ++ ": no field named " ++ quoted field
  | notNumber layout field token =>
    layout ++ ": field " ++ quoted field ++ " is not a number: " ++ quoted token

/-! ## Settings -/

inductive SettingsFault where
  | invalidVersion (text : String)
  | zeroPort
  | unreadable (path : String)
  /-- A file that does not hold settings; `version` is the text of its protocol
      version if that is the first thing wrong with it -/
  | unparsable (path : String) (version : Option String)
  | uncreatable (folder : String)
  | unwritable (path : String)
  deriving DecidableEq

/-- What the message of every settings fault starts with. -/
def SettingsFault.heading : String := "Configuration error: "

/-- What is said about a text that is no protocol version, also if it is in a file. -/
def SettingsFault.versionMessage (text : String) : String :=
  heading ++ "invalid protocol version: " ++ quoted text

def SettingsFault.message : SettingsFault → String
  | invalidVersion text => versionMessage text
  | zeroPort => heading ++ "hub_port must be > 0"
  | unreadable path => heading ++ "failed to read " ++ path
  | unparsable path none => heading ++ "failed to parse " ++ path
  | unparsable path (some version) =>
    heading ++ "failed to parse " ++ path ++ ": " ++ versionMessage version
  | uncreatable folder => heading ++ "failed to create " ++ folder
  | unwritable path => heading ++ "failed to write " ++ path

/-! ## Faults -/

inductive Fault where
  | usage (cause : UsageFault)
  | transport (cause : TransportFault)
  | malformed (cause : MalformedReply)
  /-- A reply in good form whose status is not the one asked for -/
  | rejected (verb : Verb) (status : Status) (reason : String)
  /-- A radio code that is no half of a pair -/
  | invalidCode (code : Int64)
  | settings (cause : SettingsFault)
  deriving DecidableEq

def Fault.message : Fault → String
  | usage cause => "Usage error: " ++ cause.message
  | transport cause =>
    match cause.message? with
    | some text => "Transport error: " ++ text
    | none => "Transport error"
  | malformed cause => "Malformed reply: " ++ cause.message
  | rejected verb status reason =>
    verb.keyword ++ " rejected by hub (" ++ status.text ++ "): " ++ reason
  | invalidCode code => "code " ++ toString code.toInt ++ " is invalid, not adding"
  | settings cause => cause.message

end LightHub
