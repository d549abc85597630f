/-
  Whole sessions, as lists of operations.

  * `Operation`: everything that can be asked of a session or of a client on
    it, a learner's steps included; `Operation.perform` does it.
  * `Answer`: what an operation has brought.
  * `Script.play`: performs operations in order.  A failed one does not end the
    script.
  * `Script.total`: all that a session writes from its first operation until it
    is dropped.
-/
import LightHub.Client

namespace LightHub

/-! ## Learners, step by step -/

namespace Learner

/-- What can be asked of a learner. -/
inductive Action where
  | step
  | run
  | sniff
  deriving DecidableEq

/-- What a learner's action has brought. -/
inductive Event where
  | stepped (result : Except Fault Unit) (now : Stage)
  | ran (result : Except Fault Registration)
  | sniffed (result : Except Fault Learned)

/-- Acts in order.  A run or a sniff uses the learner up. -/
def act (l : Learner) : List Action → StateM Session (List Event)
  | [] => return []
  | .step :: actions => do
    let (result, l) ← l.step
    return .stepped result l.stage :: (← l.act actions)
  | .run :: _ => return [.ran (← l.run.run)]
  | .sniff :: _ => return [.sniffed (← l.sniff.run)]

end Learner

/-! ## Operations -/

inductive Operation where
  | send (c : Command)
  | request (c : Command)
  | readReply
  | readBody (ending : BodyEnd)
  | execute (c : Command)
  | toggle (name : String)
  | set (name command : String) (arg : Option String)
  | transmit (topic message : String)
  | transmitCode (code : Int64) (pulse : UInt32)
  | addDevice (name topic : String) (type : DeviceType) (commands : Option String)
  | delete (name : String)
  | update (field : RecordField) (name : String) (value : Option String)
  | list
  | status (name : String)
  | scan
  | addByScan (name : String)
  | addCode (name : String) (code : Int64) (pulse : UInt32)
  | addPair (name : String) (on off : Int64) (pulse : UInt32)
  | learn (learner : Learner) (actions : List Learner.Action)

/-- What an operation has brought. -/
inductive Answer where
  | nothing
  | reply (r : Reply)
  | lines (ls : List String)
  | outcome (o : Outcome)
  | learned (l : Learned)
  | registration (r : Registration)
  | learning (start : Stage) (events : List Learner.Event)

/-- Performs an operation. -/
def Operation.perform : Operation → Exchange Answer
  | send c => (fun _ => .nothing) <$> Session.send c
  | request c => .reply <$> Session.request c
  | readReply => .reply <$> Session.readReply
  | readBody ending => .lines <$> Session.readBody ending
  | execute c => .outcome <$> Client.execute c
  | toggle name => .reply <$> Client.toggle name
  | set name command arg => .reply <$> Client.set name command arg
  | transmit topic message => .reply <$> Client.transmit topic message
  | transmitCode code pulse => .reply <$> Client.transmitCode code pulse
  | addDevice name topic type commands => .reply <$> Client.addDevice name topic type commands
  | delete name => .reply <$> Client.delete name
  | update field name value => .reply <$> Client.update field name value
  | list => .lines <$> Client.list
  | status name => .lines <$> Client.status name
  | scan => .learned <$> Client.scan
  | addByScan name => .registration <$> Client.addByScan name
  | addCode name code pulse => .registration <$> Client.addCode name code pulse
  | addPair name on off pulse => .registration <$> Client.addPair name on off pulse
  | learn l actions => .learning l.stage <$> ExceptT.lift (l.act actions)

namespace Script

/-- How a session ends. -/
inductive Ending where
  /-- It is closed, and then dropped. -/
  | close
  /-- It is dropped. -/
  | drop
  deriving DecidableEq

/-- Performs operations in order; a failed one does not end the script. -/
def play : List Operation → Session → Session
  | [], s => s
  | op :: ops, s => play ops (op.perform.on s).2

/-- Ends a session. -/
def finish : Ending → Session → Session
  | .close, s => (Session.close.on s).2.drop
  | .drop, s => s.drop

/-- All that a session has written once it has ended. -/
def total (ops : List Operation) (ending : Ending) (s : Session) : List UInt8 :=
  (finish ending (play ops s)).sink.written

end Script

end LightHub
