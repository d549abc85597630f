/-
  Learning a remote: the hub listens for one code, the pair is derived from it,
  and the device is added.

      idle ──SNIFF──▶ awaitingArm ──200──▶ awaitingCapture ──200──▶ validating
                                                                        │
        done ◀──200/202── awaitingAddAck ◀──ADD── derived ◀─────────────┘

  Every other reply and every invalid code ends in `failed`.  A code that is
  given by hand enters at `validating`, a pair at `derived`.

  * `Stage`: where a run stands; `Stage.left` counts the steps to its end.
  * `advance`: what one step does, as an exchange with the hub.
  * `Learner`, `Learner.step`: a run under a device name, and one step of it.
  * `Learner.run`: all steps, to the device that was added.
  * `Learner.sniff`: the first half only, to the captured code.
-/
import LightHub.Remote.Code
import LightHub.Session
import LightHub.Wire.Layout

namespace LightHub

/-- Where a run stands. -/
inductive Stage where
  | idle
  | awaitingArm
  | awaitingCapture
  | validating (learned : Learned)
  | derived (device : Registration)
  | awaitingAddAck (device : Registration)
  | done (device : Registration)
  | failed
  deriving DecidableEq

namespace Stage

def isTerminal : Stage → Bool
  | done _ | failed => true
  | _ => false

/-- How many steps are left to `done`. -/
def left : Stage → Nat
  | idle => 6
  | awaitingArm => 5
  | awaitingCapture => 4
  | validating _ => 3
  | derived _ => 2
  | awaitingAddAck _ => 1
  | done _ | failed => 0

end Stage

namespace Learner

/-- Reads a captured code from the second reply to a sniff. -/
def captured (r : Reply) : Except Fault Learned :=
  if r.status = .ok then do
    let fields ← Layout.capture.extract r
    let code ← fields.number Text.int64? "code"
    let pulse ← fields.number Text.uint32? "pulse"
    return { code, pulse }
  else
    .error (.rejected .sniff r.status
      (if r.status = .timedOut then "timed out waiting for a remote" else "unknown encoding"))

/-- The stage after `stage`, in a run under the device name `name`. -/
def advance (name : String) : Stage → Exchange Stage
  | .idle => do
    Session.send .sniff
    return .awaitingArm
  | .awaitingArm => do
    let r ← Session.readReply
    if r.status = .ok then return .awaitingCapture
    else throw (.rejected .sniff r.status "unable to scan")
  | .awaitingCapture => do
    let r ← Session.readReply
    return .validating (← Exchange.ofResult (captured r))
  | .validating learned => do
    return .derived (← Exchange.ofResult (Registration.ofLearned name learned))
  | .derived device => do
    Session.send device.command
    return .awaitingAddAck device
  | .awaitingAddAck device => do
    let r ← Session.readReply
    if r.status = .ok ∨ r.status = .deviceAdded then return .done device
    else throw (.rejected .add r.status ("unable to add device " ++ device.name))
  | .done device => return .done device
  | .failed => return .failed

end Learner

/-! ## Runs -/

/-- A run under a device name. -/
structure Learner where
  name : String
  stage : Stage
  deriving DecidableEq

namespace Learner

/-- A run that has to capture a code. -/
def start (name : String) : Learner :=
  ⟨name, .idle⟩

/-- A run on a code that is known. -/
def ofLearned (name : String) (learned : Learned) : Learner :=
  ⟨name, .validating learned⟩

/-- A run on a device that only has to be added. -/
def ofRegistration (device : Registration) : Learner :=
  ⟨device.name, .derived device⟩

/-- One step.  After an error the run has failed. -/
def step (l : Learner) : StateM Session (Except Fault Unit × Learner) := do
  match ← (advance l.name l.stage).run with
  | .ok stage => return (.ok (), { l with stage })
  | .error e => return (.error e, { l with stage := .failed })

/-- What a run that takes no more steps has come to. -/
def outcome (l : Learner) : Except Fault Registration :=
  match l.stage with
  | .done device => .ok device
  | _ => .error (.usage (.learningFailed l.name))

/-- At most `n` steps, up to a terminal stage. -/
def runFor : Nat → Learner → Exchange Registration
  | 0, l => Exchange.ofResult l.outcome
  | n + 1, l =>
    if l.stage.isTerminal then Exchange.ofResult l.outcome
    else do
      let stage ← advance l.name l.stage
      runFor n { l with stage }

/-- Runs to the end. -/
def run (l : Learner) : Exchange Registration :=
  runFor l.stage.left l

/-- At most `n` steps, up to the captured code. -/
def sniffFor : Nat → Learner → Exchange Learned
  | n, l =>
    match l.stage, n with
    | .validating learned, _ => return learned
    | .idle, n + 1 | .awaitingArm, n + 1 | .awaitingCapture, n + 1 => do
      let stage ← advance l.name l.stage
      sniffFor n { l with stage }
    | _, _ => throw (.usage (.pastCapture l.name))

/-- Runs the first half, to the captured code. -/
def sniff (l : Learner) : Exchange Learned :=
  sniffFor 3 l

end Learner

end LightHub
