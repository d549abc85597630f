/-
  Plans that have been made.

  * `Task.Asks`: the request that is asked for by a task that takes one only.
  * `sending_eq_ok_iff`, `adding_eq_ok_iff`: the numbers and the type of a request are read
    from the texts of its task.
  * `Plan.Made`: the plan of a task, with what has been checked for it.
  * `Plan.ofTask_eq_ok_iff`: **exactly what has been checked is planned.**
  * `Plan.failsIn_exchange`: a plan fails only by the hub, unless it has to capture
    a code first.
-/
import LightHub.CommandLine.Plan
import LightHub.Proofs.Client.Plain
import LightHub.Proofs.Remote.Registration
import LightHub.Proofs.Wire.DeviceType

namespace LightHub

open Text (SignedNumeral UnsignedNumeral)

/-! ## Requests of tasks -/

/-- The request that a task asks for at hubs of version `v`, if it takes one request only.
    What a task gives as text stands for the number or the device type that it denotes. -/
inductive Task.Asks (v : Version) : Task → Command → Prop
  | toggle (name : String) : Asks v (.toggle name) (.toggle name)
  | set (name command : String) (arg : Option String) :
      Asks v (.set name command arg) (.set name command arg)
  | transmit (topic message : String) :
      v.generation = .mqtt → Asks v (.send topic message) (.transmit topic message)
  | transmitCode {target payload : String} {code : Int64} {pulse : UInt32} :
      v.generation = .rf → SignedNumeral target code.toInt → UnsignedNumeral payload pulse.toNat →
      Asks v (.send target payload) (.transmitCode code pulse)
  | addDevice {name topic text : String} {type : DeviceType} {commands : Option String} :
      DeviceType.Denotes (Text.lower (Text.trim text)) type →
      Asks v (.addDevice name topic text commands) (.addDevice name topic type commands)
  | delete (name : String) : Asks v (.delete name) (.delete name)
  | status (name : String) : Asks v (.status name) (.status name)
  | list : Asks v .list .list
  | rename (name newName : String) :
      Asks v (.rename name newName) (.update .name name (some newName))
  | move (name topic : String) : Asks v (.move name topic) (.update .topic name (some topic))
  | refresh (name : String) : Asks v (.refresh name) (.update .state name none)

namespace Plan

variable {v : Version} {c : Command}

theorem readNumber_eq_ok_iff {α : Type} {read : List Char → Option α} {what : Quantity}
    {text : String} {n : α} : readNumber read what text = .ok n ↔ read text.toList = some n := by
  unfold readNumber
  cases read text.toList <;> simp

theorem sending_eq_ok_iff {target payload : String} :
    sending v target payload = .ok c ↔ Task.Asks v (.send target payload) c := by
  unfold sending
  constructor
  · intro h
    split at h
    case h_1 hmqtt =>
      obtain rfl := Except.ok.inj h
      exact .transmit target payload hmqtt
    case h_2 hrf =>
      obtain ⟨code, hcode, h⟩ := bind_eq_ok_iff.1 h
      obtain ⟨pulse, hpulse, h⟩ := bind_eq_ok_iff.1 h
      obtain rfl := Except.ok.inj h
      exact .transmitCode hrf (Text.int64?_eq_some_iff.1 (readNumber_eq_ok_iff.1 hcode))
        (Text.uint32?_eq_some_iff.1 (readNumber_eq_ok_iff.1 hpulse))
  · intro h
    cases h with
    | transmit _ _ hmqtt => rw [hmqtt]
    | transmitCode hrf htarget hpayload =>
      have hcode : readNumber Text.int64? .code target = .ok _ :=
        readNumber_eq_ok_iff.2 (Text.int64?_eq_some_iff.2 htarget)
      have hpulse : readNumber Text.uint32? .pulse payload = .ok _ :=
        readNumber_eq_ok_iff.2 (Text.uint32?_eq_some_iff.2 hpayload)
      rw [hrf]
      exact bind_eq_ok_iff.2 ⟨_, hcode, bind_eq_ok_iff.2 ⟨_, hpulse, rfl⟩⟩

theorem adding_eq (name topic text : String) (commands : Option String) :
    adding name topic text commands =
      (DeviceType.ofText text).map fun type => .addDevice name topic type commands := by
  unfold adding DeviceType.ofText
  cases DeviceType.parse text <;> rfl

theorem adding_eq_ok_iff {name topic text : String} {commands : Option String} :
    adding name topic text commands = .ok c ↔
      Task.Asks v (.addDevice name topic text commands) c := by
  rw [adding_eq, map_eq_ok_iff]
  constructor
  · rintro ⟨type, htype, rfl⟩
    exact .addDevice (DeviceType.ofText_eq_ok_iff.1 htype)
  · intro h
    cases h with
    | addDevice htype => exact ⟨_, DeviceType.ofText_eq_ok_iff.2 htype, rfl⟩

end Plan

/-- A task asks for one request at most. -/
theorem Task.Asks.unique {v : Version} {t : Task} {c c' : Command} (h : t.Asks v c)
    (h' : t.Asks v c') : c = c' := by
  cases t with
  | send target payload =>
    have hc := Plan.sending_eq_ok_iff.2 h
    exact Except.ok.inj (hc.symm.trans (Plan.sending_eq_ok_iff.2 h'))
  | addDevice name topic text commands =>
    have hc := Plan.adding_eq_ok_iff.2 h
    exact Except.ok.inj (hc.symm.trans (Plan.adding_eq_ok_iff.2 h'))
  | _ => cases h <;> cases h' <;> rfl

/-! ## Plans -/

namespace Plan

variable {v : Version} {plan : Plan} {t : Task} {c : Command}

/-- The plan of a task at hubs of version `v`, with what has been checked: what is
    sent first may be sent, and a device that is known belongs to its codes. -/
inductive Made (v : Version) : Task → Plan → Prop
  | plain {t : Task} {c : Command} : t.Asks v c → c.Sendable v → Made v t (.plain c)
  | scan : Command.sniff.Sendable v → Made v .scan .sniff
  | addScan {name : String} : Command.sniff.Sendable v → Made v (.addScan name) (.addScan name)
  | addCode {name : String} {code : Int64} {pulse : UInt32} {device : Registration} :
      Registration.ofLearned name ⟨code, pulse⟩ = .ok device → device.command.Sendable v →
      Made v (.addCode name code pulse) (.addCode device)
  | addPair {name : String} {on off : Int64} {pulse : UInt32} {device : Registration} :
      Registration.ofCodes name on off pulse = .ok device → device.command.Sendable v →
      Made v (.addPair name on off pulse) (.addPair device)

theorem checked_eq_ok_iff : checked v c = .ok () ↔ c.Sendable v := by
  unfold checked
  rw [checks_eq_ok_iff]
  exact ⟨fun h => ⟨h.1, h.2⟩, fun h => ⟨h.fits, h.spoken⟩⟩

theorem made_plainly (hasks : t.Asks v c) (h : plainly v c = .ok plan) : Made v t plan := by
  obtain ⟨⟨⟩, hc, h⟩ := bind_eq_ok_iff.1 h
  obtain rfl : .plain c = plan := Except.ok.inj h
  exact .plain hasks (checked_eq_ok_iff.1 hc)

/-- What is planned has been checked. -/
theorem made_ofTask (h : ofTask v t = .ok plan) : Made v t plan := by
  cases t with
  | send target payload =>
    obtain ⟨c, hsending, h⟩ := bind_eq_ok_iff.1 h
    exact made_plainly (sending_eq_ok_iff.1 hsending) h
  | addDevice name topic type commands =>
    obtain ⟨c, hadding, h⟩ := bind_eq_ok_iff.1 h
    exact made_plainly (adding_eq_ok_iff.1 hadding) h
  | addScan name =>
    obtain ⟨⟨⟩, hsniff, h⟩ := bind_eq_ok_iff.1 h
    obtain rfl : .addScan name = plan := Except.ok.inj h
    exact .addScan ⟨rfl, hsniff⟩
  | scan =>
    obtain ⟨⟨⟩, hsniff, h⟩ := bind_eq_ok_iff.1 h
    obtain rfl : .sniff = plan := Except.ok.inj h
    exact .scan ⟨rfl, hsniff⟩
  | addCode name code pulse =>
    obtain ⟨device, hdevice, h⟩ := bind_eq_ok_iff.1 h
    obtain ⟨⟨⟩, hc, h⟩ := bind_eq_ok_iff.1 h
    obtain rfl : .addCode device = plan := Except.ok.inj h
    exact .addCode hdevice (checked_eq_ok_iff.1 hc)
  | addPair name on off pulse =>
    obtain ⟨device, hdevice, h⟩ := bind_eq_ok_iff.1 h
    obtain ⟨⟨⟩, hc, h⟩ := bind_eq_ok_iff.1 h
    obtain rfl : .addPair device = plan := Except.ok.inj h
    exact .addPair hdevice (checked_eq_ok_iff.1 hc)
  | toggle | set | delete | status | list | rename | move | refresh =>
    exact made_plainly (by constructor) h

/-- The code that a plan captures is the only thing that was not checked when the
    plan was made. -/
theorem failsIn_exchange (h : Made v t plan) (hscan : ∀ name, plan ≠ .addScan name) :
    Exchange.FailsIn v Fault.OfHub plan.exchange := by
  cases h with
  | plain _ hc => exact ((Exchange.plain_execute _).failsIn hc).map _
  | scan hsniff => exact (Exchange.plain_scan.failsIn hsniff).map _
  | addScan _ => exact absurd rfl (hscan _)
  | addCode hdevice hc =>
    have hknown := Registration.ofLearned_on hdevice
    rw [exchange, Client.addCode_eq, hknown, Exchange.ofResult_ok_bind]
    exact ((Exchange.plain_register _).failsIn hc).map _
  | addPair hdevice hc =>
    obtain rfl := Registration.eq_of_ofCodes hdevice
    rw [exchange, Client.addPair_eq, hdevice, Exchange.ofResult_ok_bind]
    exact ((Exchange.plain_register _).failsIn hc).map _

end Plan

end LightHub
