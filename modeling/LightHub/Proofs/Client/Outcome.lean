/-
  What a request brings.

  * `Command.bodyEnd?`: which requests have a body, and how it ends.
  * `on_execute_of_readReply`: **the number of the status decides**, whatever else the
    reply says, and only bodies are read beyond it.
-/
import LightHub.Proofs.Session.Faults

namespace LightHub

/-- How the body ends that comes after an accepted reply, if the request has one. -/
def Command.bodyEnd? (r : Reply) : Command → Option (Except Fault BodyEnd)
  | list => some (Client.listEnd r)
  | status _ => some (.ok .sentinel)
  | _ => none

/-- Only a list and the status of a device have a body. -/
theorem Command.bodyEnd?_eq_none_iff {c : Command} {r : Reply} :
    c.bodyEnd? r = none ↔ c ≠ list ∧ ∀ name, c ≠ status name := by
  cases c <;> simp [bodyEnd?]

/-- Statuses are told apart by their numbers. -/
theorem Status.mem_iff_code_mem {status : Status} {accepted : List Status} :
    status ∈ accepted ↔ status.code ∈ accepted.map code := by
  refine ⟨List.mem_map_of_mem, fun h => ?_⟩
  obtain ⟨other, hmem, hcode⟩ := List.mem_map.1 h
  obtain rfl : other = status := congrArg Status.mk hcode
  exact hmem

namespace Client

variable {c : Command} {s : Session} {r : Reply}

/-! ## Bodies -/

theorem complete_of_none (h : c.bodyEnd? r = none) : complete r c = pure (.done r) := by
  cases c <;> first | rfl | cases h

theorem complete_of_some {ending : Except Fault BodyEnd} (h : c.bodyEnd? r = some ending) :
    complete r c = (do
      let ending ← Exchange.ofResult ending
      return .lines r (← Session.readBody ending)) := by
  cases c <;> cases h
  · rfl
  · rfl

/-- What is left of a request brings the header, with the lines of its body. -/
theorem on_complete_eq_ok_iff {ending : Except Fault BodyEnd} {o : Outcome}
    (h : c.bodyEnd? r = some ending) :
    ((complete r c).on s).1 = .ok o ↔ ∃ bodyEnd lines, ending = .ok bodyEnd ∧
      (Stream.readBody bodyEnd s.unread).1 = .ok lines ∧ o = .lines r lines := by
  rw [complete_of_some h]
  cases ending with
  | error e => simp [Exchange.on_bind]
  | ok bodyEnd =>
    simp only [Exchange.on_bind, Exchange.on_ofResult, Session.on_readBody]
    rcases hbody : Stream.readBody bodyEnd s.unread with ⟨e | lines, rest⟩
    · simp [hbody]
    · simp [hbody, eq_comm]

/-! ## Requests -/

/-- **The number of the status decides** what a request brings.  If it is none that the
    request accepts, the request is rejected; if it is one of them, the request brings
    the reply, with the body if it has one.  A line that is no reply is an error of its
    own.  Unless there is a body, exactly one line has been read. -/
theorem on_execute_of_readReply (hc : c.Sendable s.version)
    (hs : s.sink.Accepts (Text.bytes (c.line s.version))) :
    (∀ e, (Stream.readReply s.unread).1 = .error e → (execute c).on s = (.error e, s.heard c)) ∧
      ∀ r, (Stream.readReply s.unread).1 = .ok r →
        (r.status.code ∉ c.accepted.map Status.code → (execute c).on s =
          (.error (.rejected c.verb r.status (c.rejection r.status)), s.heard c)) ∧
        (r.status.code ∈ c.accepted.map Status.code →
          ((c ≠ .list ∧ ∀ name, c ≠ .status name) →
            (execute c).on s = (.ok (.done r), s.heard c)) ∧
          ∀ ending, c.bodyEnd? r = some ending →
            (∀ verb status message,
              ((execute c).on s).1 ≠ .error (.rejected verb status message)) ∧
            ∀ o, ((execute c).on s).1 = .ok o ↔ ∃ bodyEnd lines, ending = .ok bodyEnd ∧
              (Stream.readBody bodyEnd (s.heard c).unread).1 = .ok lines ∧
                o = .lines r lines) := by
  refine ⟨fun e => on_execute_of_error hc hs, fun r hr => ⟨fun hcode => ?_, fun hcode => ?_⟩⟩
  · exact on_execute_of_rejected hc hs hr fun h => hcode (Status.mem_iff_code_mem.1 h)
  · have hon := on_execute_of_accepted hc hs hr (Status.mem_iff_code_mem.2 hcode)
    rw [hon]
    refine ⟨fun hbare => ?_, fun ending hending => ⟨fun verb status message hrejected => ?_, ?_⟩⟩
    · rw [complete_of_none (Command.bodyEnd?_eq_none_iff.2 hbare), Exchange.on_pure]
    · exact (Exchange.failsIn_complete r c (s.heard c) rfl).2 _ hrejected
    · exact fun o => on_complete_eq_ok_iff hending

/-- A number that another request accepts, with a zero in front of it: the second line
    stays unread. -/
theorem on_execute_of_readReply_toggle :
    let hub := Text.bytes "KL/0.3 0203 deleted\nKL/0.3 200 ok\n"
    let s := Session.opened .current "hub" hub
    let c := Command.toggle "lamp"
    c.Sendable s.version ∧ s.sink.Accepts (Text.bytes (c.line s.version)) ∧
      (execute c).on s = (.error (.rejected .toggle .deviceDeleted "unable to toggle device lamp"),
        { s with
          unread := Text.bytes "KL/0.3 200 ok\n"
          sink.written := Text.bytes "TOGGLE lamp KL/0.3\n" }) := by
  intro hub s c
  have hread : (Stream.readReply s.unread).1 = .ok ⟨"KL/0.3", .deviceDeleted, ["deleted"]⟩ := by
    decide +kernel
  have hheard : s.heard c = { s with
      unread := Text.bytes "KL/0.3 200 ok\n"
      sink.written := Text.bytes "TOGGLE lamp KL/0.3\n" } := by
    decide +kernel
  refine ⟨by decide, ⟨rfl, rfl⟩, ?_⟩
  rw [← hheard]
  exact ((on_execute_of_readReply (by decide) ⟨rfl, rfl⟩).2 _ hread).1 (by decide)

end Client

end LightHub
