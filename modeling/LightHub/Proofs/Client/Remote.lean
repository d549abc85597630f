/-
  The exchanges that learn a remote, request by request.

  * `register`: a device is added; `sendable_command`: which devices can be.
  * `scan_eq`, `addByScan_eq`, `addCode_eq`, `addPair_eq`: **what a learner does
    from where it starts**, without its stages.
-/
import LightHub.Proofs.Client.Execute

namespace LightHub

open Exchange (ofResult)

/-! ## Results in exchanges -/

namespace Exchange

variable {α β : Type}

theorem ofResult_ok_bind (a : α) (f : α → Exchange β) : ofResult (.ok a) >>= f = f a := rfl

theorem ofResult_error_bind (e : Fault) (f : α → Exchange β) :
    ofResult (.error e) >>= f = throw e := rfl

theorem throw_bind (e : Fault) (f : α → Exchange β) : (throw e : Exchange α) >>= f = throw e := rfl

end Exchange

namespace Client

/-- Adds a device. -/
def register (device : Registration) : Exchange Registration := do
  let _ ← execute device.command
  return device

/-- A device that does not fit is not asked for. -/
theorem on_register_of_validate_error {s : Session} {device : Registration} {e : Fault}
    (hspoken : device.command.checkGeneration s.version = .ok ())
    (hfits : device.command.validate = .error e) : (register device).on s = (.error e, s) := by
  simp only [register, execute_eq, Session.request, Exchange.on_bind,
    Session.on_send_of_validate_error hspoken hfits]

end Client

namespace Registration

open Text (IsWord)

variable {device : Registration} {v : Version}

/-- A device fits its request if its name is a word and its pulse has a length. -/
theorem validate_command :
    device.command.validate = .ok () ↔ IsWord device.name ∧ device.pulse ≠ 0 := by
  rw [command, Command.validate, checks_eq_ok_iff, checkToken_eq_ok_iff, checkPulse_eq_ok_iff]

/-- Hubs that can listen for a code can also be given one. -/
theorem checkGeneration_command (h : Command.sniff.Sendable v) (device : Registration) :
    device.command.checkGeneration v = .ok () := by
  have hrf : v.generation = .rf := h.generation_eq rfl
  exact if_pos hrf.symm

end Registration

/-! ## Learners -/

namespace Learner

variable {α : Type} {name : String} {device : Registration}

/-- Of a sniff, the first reply says whether the hub listens. -/
theorem advance_idle_bind (next : Stage → Exchange α) :
    (advance name .idle >>= fun stage => advance name stage >>= next) =
      Client.execute .sniff >>= fun _ => next .awaitingCapture := by
  simp only [advance, Client.execute, Session.request, bind_assoc, pure_bind]
  refine bind_congr fun _ => bind_congr fun r => ?_
  by_cases h : r.status = .ok
  · have hcheck : Client.check .sniff r = .ok () := by
      rw [Client.check_eq_ok_iff, h]
      exact List.mem_singleton_self _
    simp only [if_pos h, hcheck, Exchange.ofResult_ok_bind, pure_bind]
  · have hcheck : Client.check .sniff r = .error (.rejected .sniff r.status "unable to scan") :=
      if_neg fun hmem => h (List.mem_singleton.1 hmem)
    simp only [if_neg h, hcheck, Exchange.ofResult_error_bind, Exchange.throw_bind]

theorem runFor_done (n : Nat) : runFor n ⟨name, .done device⟩ = pure device := by
  cases n with
  | zero => rfl
  | succ n => rfl

/-- A device that is ready is added. -/
theorem runFor_derived (n : Nat) :
    runFor (n + 2) ⟨name, .derived device⟩ = Client.register device := by
  simp only [runFor, Stage.isTerminal, Bool.false_eq_true, if_false, advance, bind_assoc, pure_bind,
    Client.register, Client.execute_eq, Session.request]
  refine bind_congr fun _ => bind_congr fun r => ?_
  have hmem : r.status ∈ device.command.accepted ↔ r.status = .ok ∨ r.status = .deviceAdded :=
    List.mem_cons.trans (or_congr_right List.mem_singleton)
  by_cases h : r.status = .ok ∨ r.status = .deviceAdded
  · have hcheck : Client.check device.command r = .ok () := Client.check_eq_ok_iff.2 (hmem.2 h)
    simp only [if_pos h, hcheck, Exchange.ofResult_ok_bind, pure_bind, runFor_done]
    rfl
  · have hcheck : Client.check device.command r =
        .error (.rejected .add r.status ("unable to add device " ++ device.name)) :=
      if_neg fun hok => h (hmem.1 hok)
    simp only [if_neg h, hcheck, Exchange.ofResult_error_bind, Exchange.throw_bind]

/-- A code that is known has its device added. -/
theorem runFor_validating (n : Nat) (learned : Learned) :
    runFor (n + 3) ⟨name, .validating learned⟩ = (do
      let device ← ofResult (Registration.ofLearned name learned)
      Client.register device) := by
  rw [runFor]
  simp only [Stage.isTerminal, Bool.false_eq_true, if_false, advance, bind_assoc, pure_bind,
    runFor_derived]

/-- A run that has to capture a code is a sniff and the rest of the run. -/
theorem runFor_idle (n : Nat) :
    runFor (n + 6) ⟨name, .idle⟩ = (do
      let _ ← Client.execute .sniff
      let r ← Session.readReply
      let learned ← ofResult (captured r)
      let device ← ofResult (Registration.ofLearned name learned)
      Client.register device) := by
  have hsteps : runFor (n + 6) ⟨name, .idle⟩ = advance name .idle >>= fun stage =>
      advance name stage >>= fun stage => runFor (n + 4) ⟨name, stage⟩ := by
    simp only [runFor, Stage.isTerminal, Bool.false_eq_true, if_false, advance, bind_assoc,
      pure_bind]
  rw [hsteps, advance_idle_bind]
  refine bind_congr fun _ => ?_
  rw [runFor]
  simp only [Stage.isTerminal, Bool.false_eq_true, if_false, advance, bind_assoc, pure_bind,
    runFor_validating]

theorem sniffFor_idle :
    sniffFor 3 ⟨name, .idle⟩ = (do
      let _ ← Client.execute .sniff
      let r ← Session.readReply
      ofResult (captured r)) := by
  have hsteps : sniffFor 3 ⟨name, .idle⟩ = advance name .idle >>= fun stage =>
      advance name stage >>= fun stage => sniffFor 1 ⟨name, stage⟩ := by
    simp only [sniffFor, advance, bind_assoc, pure_bind]
  rw [hsteps, advance_idle_bind]
  refine bind_congr fun _ => ?_
  simp only [sniffFor, advance, bind_assoc, pure_bind, bind_pure]

end Learner

/-! ## The client -/

namespace Client

variable {name : String}

/-- The hub listens, and tells the code that it hears. -/
theorem scan_eq :
    scan = (do
      let _ ← execute .sniff
      let r ← Session.readReply
      ofResult (Learner.captured r)) :=
  Learner.sniffFor_idle

/-- The device of a remote is the one of the code that it sends. -/
theorem addByScan_eq (name : String) :
    addByScan name = (do
      let learned ← scan
      let device ← ofResult (Registration.ofLearned name learned)
      register device) := by
  rw [scan_eq]
  simp only [bind_assoc]
  exact Learner.runFor_idle 0

theorem addCode_eq (name : String) (code : Int64) (pulse : UInt32) :
    addCode name code pulse = (do
      let device ← ofResult (Registration.ofLearned name ⟨code, pulse⟩)
      register device) :=
  Learner.runFor_validating 0 _

theorem addPair_eq (name : String) (on off : Int64) (pulse : UInt32) :
    addPair name on off pulse = (do
      let device ← ofResult (Registration.ofCodes name on off pulse)
      register device) :=
  bind_congr fun _ => Learner.runFor_derived 0

end Client

end LightHub
