/-
  What a hub can put into messages.

  * `Command.clean_rejection`: a rejection says what was asked for, and nothing that the
    hub has said.
  * `Exchange.clean_execute`, `clean_scan`, `clean_register`: the faults of a request, of
    a sniff and of a device that is added.
  * `Operation.texts`: the texts that are given with an operation;
    `clean_message_of_perform`: **no hub puts a control character into a message**,
    whatever it says.
-/
import LightHub.Proofs.Client.Refusal
import LightHub.Proofs.Remote.Registration

namespace LightHub

open Fault (Clean)
open Text (clean_append clean_iff_true)

/-! ## Replies -/

/-- No control character stands in the texts of the request. -/
def Command.CleanTexts (c : Command) : Prop :=
  ∀ a ∈ c.texts, Text.Clean a.2

/-- A rejection says what was asked for, whatever the hub has said. -/
theorem Command.clean_rejection {c : Command} (h : c.CleanTexts) (s : Status) :
    Text.Clean (c.rejection s) := by
  cases c with
  | toggle name | delete name | addDevice name topic type commands | addCodes name on off pulse
  | transmit topic message => exact clean_append.2 ⟨by decide, h _ List.mem_cons_self⟩
  | set name command arg =>
    have hname : Text.Clean name := h (.deviceName, name) (by simp [texts])
    have hcommand : Text.Clean command := h (.command, command) (by simp [texts])
    dsimp only [rejection]
    simp (disch := decide) [clean_iff_true, hname, hcommand]
  | transmitCode code pulse =>
    dsimp only [rejection]
    simp (disch := decide) [clean_iff_true]
  | status name =>
    have hname : Text.Clean name := h _ List.mem_cons_self
    dsimp only [rejection]
    split
    · exact clean_append.2 ⟨by decide, hname⟩
    · exact clean_append.2 ⟨by decide, hname⟩
  | update field name value =>
    have hname : Text.Clean name := h (.deviceName, name) (by simp [texts])
    dsimp only [rejection]
    simp (disch := decide) [clean_iff_true, hname]
  | sniff | list | quit =>
    dsimp only [rejection]
    decide

theorem Client.clean_check {c : Command} (h : c.CleanTexts) (r : Reply) :
    FaultsIn Clean (check c r) := by
  unfold check
  split
  · exact faultsIn_ok _
  · have hreason : Text.Clean (c.rejection r.status) := Command.clean_rejection h r.status
    exact faultsIn_error (Fault.clean_iff.2 (List.forall_mem_singleton.2 hreason))

theorem Learner.clean_captured (r : Reply) : FaultsIn Clean (captured r) := by
  intro e he
  by_cases hok : r.status = .ok
  · exact (malformed_of_captured hok he).clean (List.forall_mem_singleton.2 (by decide))
  · rw [captured_of_status_ne hok] at he
    obtain rfl := Except.error.inj he
    refine Fault.clean_iff.2 (List.forall_mem_singleton.2 ?_)
    split
    · decide
    · decide

/-! ## Exchanges -/

namespace Exchange

variable {v : Version} {c : Command} {device : Registration}

/-- A request that may not be sent is refused in a message that quotes its arguments. -/
theorem clean_send (c : Command) : FailsIn v Clean (Session.send c) := by
  by_cases hc : c.Sendable v
  · exact (failsIn_send hc).mono fun _ => Fault.CleanTraffic.clean
  · rintro s rfl
    obtain ⟨cause, hvet⟩ := Command.exists_of_not_sendable hc
    rw [Session.on_send_of_vet_error hvet]
    exact ⟨rfl, faultsIn_error (c.faultsIn_vet _ _ hvet).clean⟩

theorem clean_readReply : FailsIn v Clean Session.readReply :=
  failsIn_readReply.mono fun _ => Fault.CleanTraffic.clean

theorem clean_execute (h : c.CleanTexts) : FailsIn v Clean (Client.execute c) := by
  rw [Client.execute_eq]
  have hrequest : FailsIn v Clean (Session.request c) :=
    (clean_send c).bind fun _ => clean_readReply
  exact hrequest.bind fun r => (failsIn_ofResult (Client.clean_check h r)).bind fun _ =>
    (cleanTraffic_complete r c).mono fun _ => Fault.CleanTraffic.clean

theorem clean_scan : FailsIn v Clean Client.scan := by
  rw [Client.scan_eq]
  have hsniff : Command.sniff.CleanTexts := List.forall_mem_nil _
  exact (clean_execute hsniff).bind fun _ => clean_readReply.bind fun r =>
    failsIn_ofResult (Learner.clean_captured r)

/-- A device is added under its name. -/
theorem clean_register (h : Text.Clean device.name) : FailsIn v Clean (Client.register device) :=
  have hdevice : device.command.CleanTexts := List.forall_mem_singleton.2 h
  (clean_execute hdevice).bind fun _ => failsIn_pure device

/-- A device that cannot be made is blamed on its codes, and codes are numbers. -/
theorem clean_ofResult_bind_register {r : Except Fault Registration} {name : String}
    (hname : Text.Clean name) (herror : ∀ e, r = .error e → ∃ code, e = .invalidCode code)
    (hok : ∀ device, r = .ok device → device.name = name) :
    FailsIn v Clean (ofResult r >>= Client.register) := by
  cases r with
  | error e =>
    obtain ⟨code, rfl⟩ := herror e rfl
    exact failsIn_throw (Fault.clean_of_shown_eq_nil rfl)
  | ok device => exact clean_register (hok device rfl ▸ hname)

theorem clean_ofLearned_bind_register {name : String} (h : Text.Clean name) (learned : Learned) :
    FailsIn v Clean (ofResult (Registration.ofLearned name learned) >>= Client.register) :=
  clean_ofResult_bind_register h
    (fun e he => ⟨_, Registration.faultsIn_ofLearned name learned e he⟩)
    fun _ hdevice => (Registration.ofLearned_eq_ok_iff.1 hdevice).1

theorem clean_ofCodes_bind_register {name : String} (h : Text.Clean name) (on off : Int64)
    (pulse : UInt32) :
    FailsIn v Clean (ofResult (Registration.ofCodes name on off pulse) >>= Client.register) :=
  clean_ofResult_bind_register h (fun _ he => ⟨_, Registration.eq_of_ofCodes_error he⟩)
    fun _ hdevice => congrArg Registration.name (Registration.eq_of_ofCodes hdevice)

end Exchange

/-! ## Operations -/

namespace Operation

/-- The texts that are given with an operation. -/
def texts : Operation → List String
  | send c | request c | execute c => c.texts.map Prod.snd
  | toggle name | delete name | status name | addByScan name | addCode name .. | addPair name .. =>
    [name]
  | set name command arg => [name, command] ++ arg.toList
  | transmit topic message => [topic, message]
  | addDevice name topic _ commands => [name, topic] ++ commands.toList
  | update _ name value => name :: value.toList
  | learn learner _ => [learner.name]
  | readReply | readBody _ | transmitCode .. | list | scan => []

open Exchange

variable {op : Operation}

/-- They are those of the request, if the operation makes one. -/
theorem cleanTexts_of_asked? {c : Command} (hop : ∀ t ∈ op.texts, Text.Clean t)
    (h : op.asked? = some [c]) : c.CleanTexts := by
  have htexts : op.texts = c.texts.map Prod.snd := by
    cases op <;> cases h
    case set name command arg => cases arg <;> rfl
    case addDevice name topic type commands => cases commands <;> rfl
    case update field name value => cases value <;> rfl
    all_goals rfl
  rw [htexts] at hop
  exact fun a ha => hop a.2 (List.mem_map_of_mem ha)

theorem faultsIn_perform (hop : ∀ t ∈ op.texts, Text.Clean t) (s : Session) :
    FaultsIn Clean (op.perform.on s).1 := by
  have hexecute {c : Command} (h : op.asked? = some [c]) :
      FailsIn s.version Clean (Client.execute c) :=
    clean_execute (cleanTexts_of_asked? hop h)
  have hname (name : String) (h : op.texts = [name]) : Text.Clean name :=
    hop name (h ▸ List.mem_singleton_self name)
  cases op with
  | send c => exact ((clean_send c).map _ s rfl).2
  | request c => exact (((clean_send c).bind fun _ => clean_readReply).map _ s rfl).2
  | readReply => exact (clean_readReply.map _ s rfl).2
  | readBody ending =>
    exact (((failsIn_readBody ending).mono fun _ => Fault.CleanTraffic.clean).map _ s rfl).2
  | execute c => exact ((hexecute rfl).map _ s rfl).2
  | scan => exact (clean_scan.map _ s rfl).2
  | addByScan name =>
    rw [perform, Client.addByScan_eq]
    exact ((clean_scan.bind fun learned =>
      clean_ofLearned_bind_register (hname name rfl) learned).map _ s rfl).2
  | addCode name code pulse =>
    rw [perform, Client.addCode_eq]
    exact ((clean_ofLearned_bind_register (hname name rfl) _).map _ s rfl).2
  | addPair name on off pulse =>
    rw [perform, Client.addPair_eq]
    exact ((clean_ofCodes_bind_register (hname name rfl) on off pulse).map _ s rfl).2
  -- a learner keeps its own faults
  | learn learner actions =>
    intro e he
    cases he
  | _ => exact (((hexecute rfl).map _).map _ s rfl).2

/-- **No hub puts a control character into a message.**  Whatever the version is, whatever
    the hub says and whatever the writer takes: if no control character stands in the
    texts that are given with an operation, none stands in the message of its error. -/
theorem clean_message_of_perform (hop : ∀ t ∈ op.texts, Text.Clean t) (s : Session) {e : Fault}
    (h : (op.perform.on s).1 = .error e) : Text.Clean e.message :=
  faultsIn_perform hop s e h

/-- A status that clears the line and rings the bell. -/
theorem clean_message_of_perform_escape :
    let op := toggle "lamp"
    let s := Session.opened .current "hub" (Text.bytes "KL/0.3 \x1b[2K\x07\r\n")
    let e := Fault.malformed (.statusNotNumber "\x1b[2K\x07")
    (∀ t ∈ op.texts, Text.Clean t) ∧ (op.perform.on s).1 = .error e ∧ Text.Clean e.message ∧
      e.message =
        "Malformed reply: status is not a number: \"\\u\x7b1b\x7d[2K\\u\x7b7\x7d\"" := by
  intro op s e
  have hop : ∀ t ∈ op.texts, Text.Clean t := List.forall_mem_singleton.2 (by decide)
  let t := { s with unread := [], sink.written := Text.bytes "TOGGLE lamp KL/0.3\n" }
  have hon : op.perform.on s = (.error e, t) :=
    Exchange.on_map_eq_error_iff.2 (by decide +kernel)
  have he : (op.perform.on s).1 = .error e := congrArg Prod.fst hon
  exact ⟨hop, he, clean_message_of_perform hop s he, by decide +kernel⟩

end Operation

end LightHub
