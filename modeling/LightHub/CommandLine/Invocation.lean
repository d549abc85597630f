/-
  What a command line asks for.

  * `Edit`: a change of the settings file, which involves no hub.
  * `Task`: something to be done at the hub.
  * `Invocation`: either of them, with the options in front of it.
-/
import LightHub.Net.Address

namespace LightHub

/-- A change of the settings file. -/
inductive Edit where
  | ip (text : String)
  | port (port : UInt16)
  deriving DecidableEq

/-- Something to be done at the hub. -/
inductive Task where
  | toggle (name : String)
  | set (name command : String) (arg : Option String)
  /-- A topic and a message, or a radio code and a pulse length: the protocol
      version tells which -/
  | send (target payload : String)
  | addDevice (name topic type : String) (commands : Option String)
  | addScan (name : String)
  | addCode (name : String) (code : Int64) (pulse : UInt32)
  | addPair (name : String) (on off : Int64) (pulse : UInt32)
  | scan
  | delete (name : String)
  | status (name : String)
  | list
  /-- A new name for a device -/
  | rename (name newName : String)
  /-- A new topic for a device -/
  | move (name topic : String)
  /-- Has the hub look up a device's state again -/
  | refresh (name : String)
  deriving DecidableEq

inductive Action where
  | edit (edit : Edit)
  | task (task : Task)
  deriving DecidableEq

/-- The options in front of an action. -/
structure Options where
  /-- The path of the settings file -/
  config : Option String := none
  /-- The hub to use instead of the configured one -/
  hub : Option Std.Net.SocketAddress := none
  verbose : Bool := false
  deriving DecidableEq

structure Invocation extends Options where
  action : Action
  deriving DecidableEq

end LightHub
