/-
  Plain requests: one line goes out, or none does.

  * `Exchange.Plain`: an exchange that sends one request and only reads after that,
    which only the hub can spoil.
  * `Operation.asked?`: which requests an operation makes; `plain_perform`: an operation
    that makes one request is plain.
  * `perform_of_asked_one`: **a plain request is refused exactly if it is not valid**,
    before anything is done.
-/
import LightHub.Proofs.Session.Faults

namespace LightHub

/-! ## Plain exchanges -/

namespace Exchange

open Fault (OfHub)

variable {α β : Type} {x : Exchange α} {c : Command} {v : Version} {s : Session} {e : Fault}

/-- What only reads, and only the hub can spoil. -/
structure Reads (x : Exchange α) : Prop where
  writes : ∀ v, Writes v x []
  fails : ∀ v, FailsIn v OfHub x

theorem reads_pure (a : α) : Reads (pure a) :=
  ⟨fun _ => writes_pure a, fun _ => failsIn_pure a⟩

theorem Reads.bind {f : α → Exchange β} (hx : Reads x) (hf : ∀ a, Reads (f a)) :
    Reads (x >>= f) :=
  ⟨fun v => (hx.writes v).bind fun a => (hf a).writes v,
    fun v => (hx.fails v).bind fun a => (hf a).fails v⟩

theorem reads_readReply : Reads Session.readReply :=
  ⟨fun _ => writes_reading _, fun _ => failsIn_readReply.mono fun _ h => h.ofTraffic.ofHub⟩

theorem reads_ofResult {r : Except Fault α} (h : FaultsIn OfHub r) : Reads (ofResult r) :=
  ⟨fun _ => writes_ofResult r, fun _ => failsIn_ofResult h⟩

theorem writes_complete (r : Reply) (c : Command) : Writes v (Client.complete r c) [] := by
  cases c with
  | list =>
    exact (writes_ofResult _).bind fun ending => (writes_reading _).bind fun ls => writes_pure _
  | status name => exact (writes_reading _).bind fun ls => writes_pure _
  | _ => exact writes_pure _

theorem reads_complete (r : Reply) (c : Command) : Reads (Client.complete r c) :=
  ⟨fun _ => writes_complete r c,
    fun _ => (failsIn_complete r c).mono fun _ => Fault.OfTraffic.ofHub⟩

/-- Nothing but the unread bytes has changed then. -/
theorem Reads.on_snd (h : Reads x) (s : Session) : ∃ unread, (x.on s).2 = { s with unread } := by
  obtain ⟨unread, hon⟩ := h.writes s.version s rfl
  refine ⟨unread, ?_⟩
  rw [hon, Session.pushed, Sink.push_nil]

/-- An exchange that sends the request, and only reads after that. -/
def Plain (x : Exchange α) (c : Command) : Prop :=
  ∃ rest : Exchange α, x = (do Session.send c; rest) ∧ Reads rest

theorem Plain.bind (h : Plain x c) {f : α → Exchange β} (hf : ∀ a, Reads (f a)) :
    Plain (x >>= f) c := by
  obtain ⟨rest, rfl, hrest⟩ := h
  exact ⟨rest >>= f, bind_assoc _ _ _, hrest.bind hf⟩

theorem Plain.map (h : Plain x c) (f : α → β) : Plain (f <$> x) c := by
  rw [map_eq_pure_bind]
  exact h.bind fun a => reads_pure (f a)

theorem plain_send (c : Command) : Plain (Session.send c) c :=
  ⟨pure (), (bind_pure _).symm, reads_pure ()⟩

theorem plain_request (c : Command) : Plain (Session.request c) c :=
  (plain_send c).bind fun _ => reads_readReply

theorem plain_execute (c : Command) : Plain (Client.execute c) c := by
  rw [Client.execute_eq]
  exact (plain_request c).bind fun r =>
    (reads_ofResult (Client.faultsIn_check c r)).bind fun _ => reads_complete r c

/-- A sniff is made for the sake of the reply after its own. -/
theorem plain_scan : Plain Client.scan .sniff := by
  rw [Client.scan_eq]
  exact (plain_execute .sniff).bind fun _ => reads_readReply.bind fun r =>
    reads_ofResult (Learner.faultsIn_captured r)

theorem plain_register (device : Registration) : Plain (Client.register device) device.command :=
  (plain_execute device.command).bind fun _ => reads_pure device

/-- A plain exchange tries to write its request, if that may be sent. -/
theorem Plain.writes (h : Plain x c) : Writes v x (transcript v (sent v [c])) := by
  obtain ⟨rest, rfl, hrest⟩ := h
  exact (writes_send c).bind fun _ => hrest.writes v

/-- A plain exchange is refused as a whole. -/
theorem Plain.on_of_vet_error (h : Plain x c) (hvet : c.vet s.version = .error e) :
    x.on s = (.error e, s) := by
  obtain ⟨rest, rfl, -⟩ := h
  rw [on_bind, Session.on_send_of_vet_error hvet]

/-- **Once its request may be sent, only the hub is to blame.** -/
theorem Plain.failsIn (h : Plain x c) (hc : c.Sendable v) : FailsIn v OfHub x := by
  obtain ⟨rest, rfl, hrest⟩ := h
  have hsend : FailsIn v OfHub (Session.send c) :=
    (failsIn_send hc).mono fun _ h => h.ofTraffic.ofHub
  exact hsend.bind fun _ => hrest.fails v

/-- So the arguments are blamed exactly if the request may not be sent. -/
theorem Plain.usage_iff (h : Plain x c) :
    (∃ cause, (x.on s).1 = .error (.usage cause)) ↔ ¬ c.Sendable s.version := by
  constructor
  · rintro ⟨cause, hon⟩ hc
    exact (h.failsIn hc s rfl).2 _ hon
  · intro hc
    obtain ⟨cause, hvet⟩ := Command.exists_of_not_sendable hc
    exact ⟨cause, by rw [h.on_of_vet_error hvet]⟩

theorem Plain.eq_of_usage {cause : UsageFault} (h : Plain x c)
    (hon : (x.on s).1 = .error (.usage cause)) :
    c.vet s.version = .error (.usage cause) ∧ x.on s = (.error (.usage cause), s) := by
  obtain ⟨cause', hvet⟩ := Command.exists_of_not_sendable (h.usage_iff.1 ⟨cause, hon⟩)
  have heq := h.on_of_vet_error hvet
  obtain rfl : cause' = cause := by simpa [heq] using hon
  exact ⟨hvet, heq⟩

end Exchange

/-! ## Operations -/

namespace Operation

/-- The requests that an operation makes, unless that depends on the hub. -/
def asked? : Operation → Option (List Command)
  | send c | request c | execute c => some [c]
  | readReply | readBody _ => some []
  | toggle name => some [.toggle name]
  | set name command arg => some [.set name command arg]
  | transmit topic message => some [.transmit topic message]
  | transmitCode code pulse => some [.transmitCode code pulse]
  | addDevice name topic type commands => some [.addDevice name topic type commands]
  | delete name => some [.delete name]
  | update field name value => some [.update field name value]
  | list => some [.list]
  | status name => some [.status name]
  | scan | addByScan _ | addCode .. | addPair .. | learn .. => none

variable {op : Operation} {c : Command}

/-- **Every operation that makes one request is plain.** -/
theorem plain_perform (h : op.asked? = some [c]) : Exchange.Plain op.perform c := by
  cases op <;> cases h
  case send => exact (Exchange.plain_send c).map _
  case request => exact (Exchange.plain_request c).map _
  case execute => exact (Exchange.plain_execute c).map _
  -- the helpers keep the reply, or the body, of what they execute
  all_goals exact ((Exchange.plain_execute _).map _).map _

/-- **A plain request is refused exactly if it is not valid**, and then nothing has been
    done.  Otherwise its line is out before anything is read, and nothing else goes
    out. -/
theorem perform_of_asked_one (h : op.asked? = some [c]) (s : Session) :
    let line := Text.bytes (c.line s.version)
    ((∃ cause, (op.perform.on s).1 = .error (.usage cause)) ↔
        c.checkGeneration s.version ≠ .ok () ∨ c.validate ≠ .ok ()) ∧
      (∀ cause, (op.perform.on s).1 = .error (.usage cause) →
        c.vet s.version = .error (.usage cause) ∧
          op.perform.on s = (.error (.usage cause), s)) ∧
      (c.checkGeneration s.version = .ok () → c.validate = .ok () → s.sink.Accepts line →
        (op.perform.on s).2.sink.written = s.sink.written ++ line ∧
          ∃ rest, op.perform = (do Session.send c; rest) ∧
            (Session.send c).on s = (.ok (), { s with sink := s.sink.push line }) ∧
              ∀ t, ∃ unread, (rest.on t).2 = { t with unread }) := by
  intro line
  have hplain := plain_perform h
  refine ⟨?_, fun cause => hplain.eq_of_usage, fun hspoken hfits hs => ?_⟩
  · rw [← Command.not_sendable_iff]
    exact hplain.usage_iff
  · have hsend : (Session.send c).on s = (.ok (), { s with sink := s.sink.push line }) :=
      Session.on_send_of_accepts ⟨hfits, hspoken⟩ hs
    obtain ⟨rest, heq, hrest⟩ := hplain
    refine ⟨?_, rest, heq, hsend, hrest.on_snd⟩
    obtain ⟨unread, hread⟩ := hrest.on_snd { s with sink := s.sink.push line }
    rw [heq, Exchange.on_bind, hsend]
    simp only [hread, hs.written_push]

/-- A name of two words is refused, also by a writer that takes nothing; a name of one
    is not. -/
theorem perform_of_asked_one_toggle :
    let broken : Session := { version := .current, sink := { room := some 0, flushFails := true } }
    let opened := Session.opened .current "hub" []
    (toggle "my fan").asked? = some [.toggle "my fan"] ∧
      (∃ cause, (toggle "my fan").perform.on broken = (.error (.usage cause), broken)) ∧
        ((toggle "fan").perform.on opened).2.sink.written = Text.bytes "TOGGLE fan KL/0.3\n" := by
  intro broken opened
  obtain ⟨husage, hsame, -⟩ := @perform_of_asked_one (toggle "my fan") _ rfl broken
  obtain ⟨cause, hcause⟩ := husage.2 (Or.inr (by decide))
  have hfan := @perform_of_asked_one (toggle "fan") _ rfl opened
  have hline : (Command.toggle "fan").line .current = "TOGGLE fan KL/0.3\n" := by decide
  refine ⟨rfl, ⟨cause, (hsame cause hcause).2⟩, ?_⟩
  rw [← hline]
  exact (hfan.2.2 (by decide) (by decide) ⟨rfl, rfl⟩).1.trans (List.nil_append _)

end Operation

end LightHub
