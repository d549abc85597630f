/-
  Requests, part by part.

  * `complete`: what is left of a request once its reply has been accepted;
    `execute_eq`: **a request is sent, its reply is checked, and it is completed.**
  * `Session.heard`: a session that has sent a request and read one line;
    `on_request_of_accepts`: a request takes the first line of what the hub says.
  * `on_execute_of_error`, `on_execute_of_rejected`, `on_execute_of_accepted`: what
    becomes of a request.  `on_execute` is the last one for a writer that is steady.
-/
import LightHub.Client
import LightHub.Proofs.Session.Exchange
import LightHub.Proofs.Stream.Reading

namespace LightHub

/-- The session once it has sent `c` and read one line. -/
def Session.heard (s : Session) (c : Command) : Session :=
  s.pushed (Text.bytes (c.line s.version)) (Stream.splitLine s.unread).2

theorem Session.heard_eq_after {s : Session} {c : Command} {reply : Except Fault Reply}
    {rest : List UInt8} (hs : s.sink.Steady) (hread : Stream.readReply s.unread = (reply, rest)) :
    s.heard c = s.after [c] rest := by
  rw [← pushed_transcript hs, heard, ← Stream.readReply_snd, hread, transcript_cons,
    transcript_nil, List.append_nil]

namespace Client

/-- What is left of a request once its reply has been accepted: a list and the
    status of a device have a body. -/
def complete (r : Reply) : Command → Exchange Outcome
  | .list => do
    let ending ← Exchange.ofResult (listEnd r)
    return .lines r (← Session.readBody ending)
  | .status _ => return .lines r (← Session.readBody .sentinel)
  | _ => return .done r

/-- A request is sent, its reply is checked, and it is completed. -/
theorem execute_eq (c : Command) :
    execute c = (do
      let r ← Session.request c
      Exchange.ofResult (check c r)
      complete r c) := by
  cases c <;> rfl

theorem check_eq_ok_iff {c : Command} {r : Reply} :
    check c r = .ok () ↔ r.status ∈ c.accepted := by
  unfold check
  split
  · simp_all
  · simp_all

variable {c : Command} {s : Session} {r : Reply} {rest : List UInt8}

section

variable (hc : c.Sendable s.version) (hs : s.sink.Accepts (Text.bytes (c.line s.version)))
include hc hs

/-- A request takes the first line of what the hub says. -/
theorem on_request_of_accepts :
    (Session.request c).on s = ((Stream.readReply s.unread).1, s.heard c) := by
  rw [Session.request, Exchange.on_bind, Session.on_send_of_accepts hc hs]
  simp only [Session.on_readReply, Session.heard, ← Stream.readReply_snd]
  simp [Session.after, Session.pushed]

theorem on_execute_of_error {e : Fault} (h : (Stream.readReply s.unread).1 = .error e) :
    (execute c).on s = (.error e, s.heard c) := by
  rw [execute_eq, Exchange.on_bind, on_request_of_accepts hc hs, h]

theorem on_execute_of_rejected (h : (Stream.readReply s.unread).1 = .ok r)
    (hstatus : r.status ∉ c.accepted) :
    (execute c).on s =
      (.error (.rejected c.verb r.status (c.rejection r.status)), s.heard c) := by
  have hcheck : check c r = .error (.rejected c.verb r.status (c.rejection r.status)) :=
    if_neg hstatus
  rw [execute_eq, Exchange.on_bind, on_request_of_accepts hc hs, h]
  simp only [Exchange.on_bind, Exchange.on_ofResult, hcheck]

/-- A request whose reply is accepted goes on with what is left of it. -/
theorem on_execute_of_accepted (h : (Stream.readReply s.unread).1 = .ok r)
    (hstatus : r.status ∈ c.accepted) : (execute c).on s = (complete r c).on (s.heard c) := by
  have hcheck : check c r = .ok () := check_eq_ok_iff.2 hstatus
  rw [execute_eq, Exchange.on_bind, on_request_of_accepts hc hs, h]
  simp only [Exchange.on_bind, Exchange.on_ofResult, hcheck]

end

theorem on_execute (hs : s.sink.Steady) (hc : c.Sendable s.version)
    (hread : Stream.readReply s.unread = (.ok r, rest)) (hok : r.status ∈ c.accepted) :
    (execute c).on s = (complete r c).on (s.after [c] rest) := by
  rw [on_execute_of_accepted hc (hs.accepts _) (congrArg Prod.fst hread) hok,
    Session.heard_eq_after hs hread]

end Client

end LightHub
