/-
  What learners put on the wire.

  * `Stream.afterReplies`, `Stream.reply`: what a hub says, reply by reply.
  * `Opening`: how a run starts: with nothing, or with a code.
  * `Opening.Fits`: a device is the one of the code that was learned.
  * `Invariant`: the invariant of runs.  The stage tells which requests have been
    sent and how many replies have been read.
  * `act_safe`: **a run adds the device of the learned code, or none.**
-/
import LightHub.Proofs.Remote.Code
import LightHub.Proofs.Remote.Runs

namespace LightHub

/-! ## Replies of a hub -/

namespace Stream

/-- What is unread of a hub after `n` replies. -/
def afterReplies : Nat → List UInt8 → List UInt8
  | 0, hub => hub
  | n + 1, hub => (readReply (afterReplies n hub)).2

/-- The reply after `n` others. -/
def reply (n : Nat) (hub : List UInt8) : Except Fault Reply :=
  (readReply (afterReplies n hub)).1

theorem eq_of_readReply {n : Nat} {hub rest : List UInt8} {r : Except Fault Reply}
    (h : readReply (afterReplies n hub) = (r, rest)) :
    reply n hub = r ∧ afterReplies (n + 1) hub = rest :=
  ⟨congrArg Prod.fst h, congrArg Prod.snd h⟩

end Stream

namespace Learner

/-! ## How runs start -/

/-- How a run starts: it has to capture a code, or is given one. -/
inductive Opening where
  | scan
  | code (learned : Learned)
  deriving DecidableEq

namespace Opening

/-- The learner that starts under the device name `name`. -/
def learner (name : String) : Opening → Learner
  | scan => start name
  | code learned => ofLearned name learned

theorem name_learner (name : String) (o : Opening) : (o.learner name).name = name := by
  cases o <;> rfl

/-- The requests up to the learned code. -/
def requests : Opening → List Command
  | scan => [.sniff]
  | code _ => []

/-- How many replies are read up to the learned code. -/
def replies : Opening → Nat
  | scan => 2
  | code _ => 0

/-- The learned code: the one in the hub's second reply, or the given one. -/
def learned? (hub : List UInt8) : Opening → Option Learned
  | scan => ((Stream.reply 1 hub).bind captured).toOption
  | code learned => some learned

/-- `device` has the name of the run and the codes of the learned button. -/
structure Fits (o : Opening) (name : String) (hub : List UInt8) (device : Registration) :
    Prop where
  name_eq : device.name = name
  on_tag : device.on.toInt % 16 = 3
  off_eq : device.off.toInt = device.on.toInt + 9
  learned : ∃ learned, o.learned? hub = some learned ∧
    (learned.code = device.on ∨ learned.code = device.off) ∧ learned.pulse = device.pulse

theorem fits_of_ofLearned {o : Opening} {name : String} {hub : List UInt8} {learned : Learned}
    {device : Registration} (hlearned : o.learned? hub = some learned)
    (h : Registration.ofLearned name learned = .ok device) : o.Fits name hub device := by
  obtain ⟨hname, hpulse, hpair⟩ := Registration.ofLearned_eq_ok_iff.1 h
  obtain ⟨hon, hoff, hcode⟩ := derivePair_eq_ok_iff.1 hpair
  exact ⟨hname, hon, hoff, learned, hlearned, hcode, hpulse.symm⟩

/-- The device has been sent last, and the reply after it says that it is added. -/
structure Acknowledges (o : Opening) (hub : List UInt8) (cs : List Command)
    (device : Registration) : Prop where
  sent : cs = o.requests ++ [device.command]
  accepted : ∃ r, Stream.reply o.replies hub = .ok r ∧ (r.status = .ok ∨ r.status = .deviceAdded)

/-- What runs send, the requests up to the learned code first. -/
inductive Sends (o : Opening) (name : String) (hub : List UInt8) : List Command → Prop
  | nothing : Sends o name hub []
  | requests : Sends o name hub o.requests
  | device {device : Registration} : o.Fits name hub device → device.pulse ≠ 0 →
      Sends o name hub (o.requests ++ [device.command])

end Opening

/-! ## The invariant -/

/-- A session `t` that a run from `s` on has come to at a stage. -/
def Invariant (name : String) (o : Opening) (s : Session) : Stage → Session → Prop
  | .idle, t => o = .scan ∧ t = s
  | .awaitingArm, t => o = .scan ∧ t = s.after [.sniff] s.unread
  | .awaitingCapture, t => o = .scan ∧ t = s.after [.sniff] (Stream.afterReplies 1 s.unread)
  | .validating learned, t =>
    o.learned? s.unread = some learned ∧
      t = s.after o.requests (Stream.afterReplies o.replies s.unread)
  | .derived device, t =>
    o.Fits name s.unread device ∧ t = s.after o.requests (Stream.afterReplies o.replies s.unread)
  | .awaitingAddAck device, t =>
    o.Fits name s.unread device ∧ device.pulse ≠ 0 ∧
      t = s.after (o.requests ++ [device.command]) (Stream.afterReplies o.replies s.unread)
  | .done device, t =>
    o.Fits name s.unread device ∧ device.pulse ≠ 0 ∧
      (∃ r, Stream.reply o.replies s.unread = .ok r ∧
        (r.status = .ok ∨ r.status = .deviceAdded)) ∧
      ∃ rest, t = s.after (o.requests ++ [device.command]) rest
  | .failed, t => ∃ cs rest, o.Sends name s.unread cs ∧ t = s.after cs rest

section

variable {name : String} {o : Opening} {s t u : Session} {stage next : Stage}

theorem invariant_learner (name : String) (o : Opening) (s : Session) :
    Invariant name o s (o.learner name).stage s := by
  cases o with
  | scan => exact ⟨rfl, rfl⟩
  | code learned => exact ⟨rfl, s.after_nil.symm⟩

/-- Up to every stage, only what a run may send has been sent. -/
theorem Invariant.sends (h : Invariant name o s stage t) :
    ∃ cs rest, o.Sends name s.unread cs ∧ t = s.after cs rest ∧
      ∀ device, stage = .done device → o.Acknowledges s.unread cs device := by
  cases stage with
  | idle =>
    obtain ⟨rfl, rfl⟩ := h
    exact ⟨[], t.unread, .nothing, t.after_nil.symm, nofun⟩
  | awaitingArm | awaitingCapture =>
    obtain ⟨rfl, rfl⟩ := h
    exact ⟨[.sniff], _, .requests, rfl, nofun⟩
  | validating _ | derived _ => exact ⟨o.requests, _, .requests, h.2, nofun⟩
  | awaitingAddAck device => exact ⟨_, _, .device h.1 h.2.1, h.2.2, nofun⟩
  | done device =>
    obtain ⟨hfits, hpulse, hack, rest, ht⟩ := h
    refine ⟨_, rest, .device hfits hpulse, ht, ?_⟩
    rintro _ ⟨⟩
    exact ⟨rfl, hack⟩
  | failed =>
    obtain ⟨cs, rest, hcs, ht⟩ := h
    exact ⟨cs, rest, hcs, ht, nofun⟩

theorem pulse_ne_zero_of_sendable {device : Registration} {v : Version}
    (h : device.command.Sendable v) : device.pulse ≠ 0 :=
  checkPulse_eq_ok_iff.1 (checks_eq_ok_iff.1 h.fits).2

/-- Every move keeps the invariant. -/
theorem Invariant.move (hmove : Moves name stage t next u) (h : Invariant name o s stage t) :
    Invariant name o s next u := by
  cases hmove with
  | sniff _ =>
    obtain ⟨rfl, rfl⟩ := h
    exact ⟨rfl, rfl⟩
  | arm hread hok =>
    obtain ⟨rfl, rfl⟩ := h
    obtain ⟨-, rfl⟩ := Stream.eq_of_readReply (n := 0) hread
    exact ⟨rfl, Session.after_after_nil ..⟩
  | capture hread hcaptured =>
    obtain ⟨rfl, rfl⟩ := h
    obtain ⟨hr, rfl⟩ := Stream.eq_of_readReply (n := 1) hread
    refine ⟨?_, Session.after_after_nil ..⟩
    rw [Opening.learned?, hr, Except.bind, hcaptured, Except.toOption]
  | derive hdevice => exact ⟨Opening.fits_of_ofLearned h.1 hdevice, h.2⟩
  | add hsend =>
    obtain ⟨hfits, rfl⟩ := h
    exact ⟨hfits, pulse_ne_zero_of_sendable hsend, Session.after_after ..⟩
  | ack hread hok =>
    obtain ⟨hfits, hpulse, rfl⟩ := h
    obtain ⟨hr, rfl⟩ := Stream.eq_of_readReply (n := o.replies) hread
    exact ⟨hfits, hpulse, ⟨_, hr, hok⟩, _, Session.after_after_nil ..⟩
  | fail rest _ =>
    obtain ⟨cs, _, hcs, rfl, -⟩ := h.sends
    exact ⟨cs, rest, hcs, Session.after_after_nil ..⟩
  | stay _ => exact h

end

/-! ## Safety -/

/-- What a run from `s` on may have sent, and what it may report. -/
structure Safe (name : String) (o : Opening) (s : Session) (cs : List Command)
    (events : List Event) : Prop where
  /-- Nothing is sent twice or out of order. -/
  order : cs = [] ∨ cs = o.requests ∨ ∃ device : Registration, cs = o.requests ++ [device.command]
  /-- Only the device of the learned code is added. -/
  added : ∀ c ∈ cs, c.verb = .add → ∃ device : Registration, c = device.command ∧
    o.Fits name s.unread device ∧ device.pulse ≠ 0
  /-- A code that is tagged as no half of a pair is not added. -/
  untagged : ∀ learned, o.learned? s.unread = some learned → learned.code &&& 0b1111 ≠ 0b0011 →
    learned.code &&& 0b1111 ≠ 0b1100 → ∀ c ∈ cs, c = .sniff
  /-- A device that is reported as added has been sent, and the hub has agreed. -/
  done : ∀ e ∈ events, ∀ device, e.done? = some device → o.Acknowledges s.unread cs device

section

variable {name : String} {o : Opening} {hub : List UInt8} {cs : List Command}

theorem Opening.eq_sniff_of_mem_requests {c : Command} (h : c ∈ o.requests) : c = .sniff := by
  cases o with
  | scan => exact List.mem_singleton.1 h
  | code learned => exact absurd h List.not_mem_nil

theorem Opening.Sends.order (h : o.Sends name hub cs) :
    cs = [] ∨ cs = o.requests ∨
      ∃ device : Registration, cs = o.requests ++ [device.command] := by
  cases h with
  | nothing => exact Or.inl rfl
  | requests => exact Or.inr (Or.inl rfl)
  | device _ _ => exact Or.inr (Or.inr ⟨_, rfl⟩)

/-- Every request is a sniff or adds the device of the learned code. -/
theorem Opening.Sends.of_mem {c : Command} (h : o.Sends name hub cs) (hc : c ∈ cs) :
    c = .sniff ∨ ∃ device : Registration, c = device.command ∧
      o.Fits name hub device ∧ device.pulse ≠ 0 := by
  cases h with
  | nothing => exact absurd hc List.not_mem_nil
  | requests => exact Or.inl (eq_sniff_of_mem_requests hc)
  | device hfits hpulse =>
    rcases List.mem_append.1 hc with hc | hc
    · exact Or.inl (eq_sniff_of_mem_requests hc)
    · exact Or.inr ⟨_, List.mem_singleton.1 hc, hfits, hpulse⟩

/-- The code of a device is tagged as a half of its pair. -/
theorem Opening.Fits.tag {device : Registration} {learned : Learned}
    (h : o.Fits name hub device) (hlearned : o.learned? hub = some learned) :
    learned.code &&& 0b1111 = 0b0011 ∨ learned.code &&& 0b1111 = 0b1100 := by
  obtain ⟨learned', hlearned', hcode, -⟩ := h.learned
  obtain rfl : learned' = learned := Option.some.inj (hlearned' ▸ hlearned)
  have hon := h.on_tag
  have hoff := h.off_eq
  rcases hcode with hcode | hcode
  · left
    rw [and_fifteen_eq_iff, hcode]
    exact hon
  · right
    rw [and_fifteen_eq_iff, hcode, hoff]
    change _ = (12 : Int)
    omega

end

/-- **A run adds the device of the learned code, or none.**  Whatever the hub
    says and whatever is asked of the learner, it sends at most its request to
    listen and one device after it. -/
theorem act_safe (name : String) (o : Opening) (actions : List Action) {s : Session}
    (hs : s.sink.Steady) :
    ∃ cs, (((o.learner name).act actions).run s).2.sink.written =
        s.sink.written ++ transcript s.version cs ∧
      Safe name o s cs (((o.learner name).act actions).run s).1 := by
  obtain ⟨last, hreach, hdone⟩ := drives_act (o.learner name) actions hs
  rw [o.name_learner] at hreach
  have hinv : Invariant name o s last _ := hreach.keeps Invariant.move (invariant_learner name o s)
  obtain ⟨cs, rest, hcs, ht, hack⟩ := hinv.sends
  refine ⟨cs, congrArg (fun t => t.sink.written) ht, hcs.order, ?_, ?_, ?_⟩
  · rintro c hc hverb
    rcases hcs.of_mem hc with rfl | hdevice
    · exact absurd hverb (by decide)
    · exact hdevice
  · rintro learned hlearned hon hoff c hc
    rcases hcs.of_mem hc with rfl | ⟨device, -, hfits, -⟩
    · rfl
    · exact absurd (hfits.tag hlearned) (not_or.2 ⟨hon, hoff⟩)
  · rintro e he device hdevice
    exact hack device (hdone _ rfl e he device hdevice)

/-- A code with the tag of an on code, captured and added. -/
theorem act_safe_captured :
    let hub := "KL/0.2 200 ok\nKL/0.2 200 Code: 5592371 Pulse: 189\nKL/0.2 202 ok\n"
    let s : Session := { version := ⟨0, 2⟩, unread := Text.bytes hub }
    let run := ((Opening.scan.learner "fan").act [.step, .run]).run s
    s.sink.Steady ∧ run.1.map Event.done? = [none, some ⟨"fan", 5592371, 5592380, 189⟩] ∧
      ∃ cs, run.2.sink.written = s.sink.written ++ transcript s.version cs ∧
        Safe "fan" .scan s cs run.1 :=
  ⟨by decide, by decide +kernel, act_safe "fan" .scan [.step, .run] (by decide)⟩

end Learner

end LightHub
