/-
  Whose fault it is.

  * `Fault.OfHub`: a fault that lies with the hub, or with the way to it;
    `Fault.OfTraffic`: one that is no rejection; `Fault.CleanTraffic`: one that quotes
    what the hub has said.
  * `Exchange.FailsIn`: the faults of an exchange, by the faults of its parts.
  * `failsIn_send`, `failsIn_complete`: the writer is to blame for a request that
    may be sent, and what the hub says for what is read.
-/
import LightHub.Proofs.Client.Remote
import LightHub.Proofs.Remote.Capture
import LightHub.Proofs.Session.LineWise
import LightHub.Proofs.Wire.Checks
import LightHub.Proofs.Wire.Decode
import LightHub.Proofs.Wire.Layout

namespace LightHub

/-- A fault that lies with the hub, or with the way to it. -/
def Fault.OfHub : Fault → Prop
  | transport _ | malformed _ | rejected .. => True
  | usage _ | invalidCode _ | settings _ => False

/-- A fault of what the hub says or is told, as opposed to a rejection. -/
def Fault.OfTraffic : Fault → Prop
  | transport _ | malformed _ => True
  | _ => False

theorem Fault.OfTraffic.ofHub {e : Fault} (h : e.OfTraffic) : e.OfHub := by
  cases e <;> trivial

/-- A fault of the traffic that says nothing of it but in quotes. -/
structure Fault.CleanTraffic (e : Fault) : Prop where
  ofTraffic : e.OfTraffic
  clean : e.Clean

theorem Fault.cleanTraffic_transport (cause : TransportFault) : (transport cause).CleanTraffic :=
  ⟨trivial, clean_of_shown_eq_nil rfl⟩

theorem Fault.Malformed.cleanTraffic {texts : List String} {e : Fault} (h : e.Malformed texts)
    (htexts : ∀ t ∈ texts, Text.Clean t) : e.CleanTraffic := by
  refine ⟨?_, h.clean htexts⟩
  obtain ⟨cause, rfl, -⟩ := h
  trivial

/-! ## Readers and writers -/

open Fault (OfHub OfTraffic CleanTraffic)

theorem Reply.faultsIn_decode (line : String) : FaultsIn CleanTraffic (decode line) :=
  fun _ he => (malformed_nil_of_decode he).cleanTraffic nofun

theorem Fields.faultsIn_number {α : Type} (read : List Char → Option α) {f : Fields}
    (field : String) (h : Text.Clean f.layout) : FaultsIn CleanTraffic (f.number read field) :=
  fun _ he => (malformed_of_number he).cleanTraffic (List.forall_mem_singleton.2 h)

theorem Learner.faultsIn_captured (r : Reply) : FaultsIn OfHub (captured r) := by
  intro e he
  by_cases hok : r.status = .ok
  · obtain ⟨cause, rfl, -⟩ := malformed_of_captured hok he
    trivial
  · rw [captured_of_status_ne hok] at he
    obtain rfl := Except.error.inj he
    trivial

namespace Client

theorem faultsIn_listEnd (header : Reply) : FaultsIn CleanTraffic (listEnd header) := by
  unfold listEnd
  split
  · rename_i fields hfields
    have hlayout : fields.layout = "list header" := (Layout.extract_eq_ok_iff.1 hfields).1
    exact (Fields.faultsIn_number _ _ (hlayout ▸ by decide)).map _
  · exact faultsIn_ok _

theorem faultsIn_check (c : Command) (r : Reply) : FaultsIn OfHub (check c r) := by
  unfold check
  split
  · exact faultsIn_ok _
  · exact faultsIn_error trivial

end Client

namespace Stream

theorem faultsIn_readLine (s : List UInt8) : FaultsIn CleanTraffic (readLine s).1 := by
  intro e he
  obtain ⟨cause, rfl⟩ := transport_of_readLine he
  exact Fault.cleanTraffic_transport cause

theorem faultsIn_readToSentinel (s : List UInt8) : FaultsIn CleanTraffic (readToSentinel s).1 := by
  -- by induction on how much is unread: every line takes at least a byte
  induction hlength : s.length using Nat.strongRecOn generalizing s with
  | ind n ih =>
    have hline := faultsIn_readLine s
    rcases hread : readLine s with ⟨e | l, rest⟩
    · rw [hread] at hline
      rw [readToSentinel_of_readLine_error hread]
      exact faultsIn_error (hline e rfl)
    · rw [readToSentinel_of_readLine hread]
      split
      · exact faultsIn_ok _
      · have hne : s ≠ [] := by
          rintro rfl
          cases hread
        have hlt : rest.length < n := by
          have hshort := length_readLine_lt hne
          rwa [hread, hlength] at hshort
        exact (ih rest.length hlt rest rfl).map _

end Stream

namespace Sink

theorem faultsIn_write (bs : List UInt8) (k : Sink) : FaultsIn CleanTraffic (k.write bs).1 := by
  obtain ⟨written, _ | n, flushFails⟩ := k
  · exact faultsIn_ok _
  · simp only [write]
    split
    · exact faultsIn_ok _
    · exact faultsIn_error (Fault.cleanTraffic_transport _)

theorem faultsIn_flush (k : Sink) : FaultsIn CleanTraffic k.flush := by
  unfold flush
  split
  · exact faultsIn_error (Fault.cleanTraffic_transport _)
  · exact faultsIn_ok _

end Sink

/-! ## Exchanges -/

namespace Exchange

variable {α β : Type} {v : Version} {P : Fault → Prop}

/-- On sessions of version `v`, whatever the writer is like, `x` keeps the version,
    and fails only with a fault that has the property. -/
def FailsIn (v : Version) (P : Fault → Prop) (x : Exchange α) : Prop :=
  ∀ s : Session, s.version = v → (x.on s).2.version = v ∧ FaultsIn P (x.on s).1

theorem FailsIn.mono {Q : Fault → Prop} {x : Exchange α} (h : FailsIn v P x)
    (hPQ : ∀ e, P e → Q e) : FailsIn v Q x :=
  fun s hv => ⟨(h s hv).1, (h s hv).2.mono hPQ⟩

theorem failsIn_pure (a : α) : FailsIn v P (pure a) :=
  fun _ hv => ⟨hv, faultsIn_ok a⟩

theorem failsIn_ofResult {r : Except Fault α} (h : FaultsIn P r) : FailsIn v P (ofResult r) :=
  fun _ hv => ⟨hv, h⟩

theorem failsIn_throw {e : Fault} (h : P e) : FailsIn v P (throw e : Exchange α) :=
  fun _ hv => ⟨hv, faultsIn_error h⟩

theorem FailsIn.bind {x : Exchange α} {f : α → Exchange β} (hx : FailsIn v P x)
    (hf : ∀ a, FailsIn v P (f a)) : FailsIn v P (x >>= f) := by
  intro s hv
  obtain ⟨hversion, hfaults⟩ := hx s hv
  rw [on_bind]
  rcases hon : x.on s with ⟨e | a, t⟩
  · rw [hon] at hversion hfaults
    exact ⟨hversion, faultsIn_error (hfaults e rfl)⟩
  · rw [hon] at hversion
    exact hf a t hversion

theorem FailsIn.map {x : Exchange α} (h : FailsIn v P x) (f : α → β) : FailsIn v P (f <$> x) := by
  rw [map_eq_pure_bind]
  exact h.bind fun a => failsIn_pure (f a)

theorem failsIn_reading {read : List UInt8 → Except Fault α × List UInt8}
    (h : ∀ s, FaultsIn P (read s).1) : FailsIn v P (reading read) :=
  fun s hv => ⟨hv, h s.unread⟩

theorem failsIn_readReply : FailsIn v CleanTraffic Session.readReply := by
  rw [readReply_eq]
  exact (failsIn_reading Stream.faultsIn_readLine).bind fun l =>
    failsIn_ofResult (Reply.faultsIn_decode l)

theorem failsIn_readCounted (total left : Nat) :
    FailsIn v CleanTraffic (reading (Stream.readCounted total left)) := by
  induction left with
  | zero => exact failsIn_reading fun _ => faultsIn_ok _
  | succ left ih =>
    rw [readCounted_succ]
    refine (failsIn_reading Stream.faultsIn_readLine).bind fun l => ?_
    split
    · exact failsIn_throw ⟨trivial, Fault.clean_of_shown_eq_nil rfl⟩
    · exact ih.map _

theorem failsIn_readBody (ending : BodyEnd) : FailsIn v CleanTraffic (Session.readBody ending) := by
  cases ending with
  | count n => exact failsIn_readCounted n n
  | sentinel => exact failsIn_reading Stream.faultsIn_readToSentinel

/-- A request that may be sent fails only by the writer. -/
theorem failsIn_send {c : Command} (h : c.Sendable v) :
    FailsIn v CleanTraffic (Session.send c) := by
  rintro s rfl
  rw [Session.on_send_eq_pushed h]
  exact ⟨rfl, (Sink.faultsIn_write _ _).bind fun _ _ => Sink.faultsIn_flush _⟩

/-! ## Requests -/

theorem cleanTraffic_complete (r : Reply) (c : Command) :
    FailsIn v CleanTraffic (Client.complete r c) := by
  cases c with
  | list =>
    exact (failsIn_ofResult (Client.faultsIn_listEnd r)).bind fun ending =>
      (failsIn_readBody ending).bind fun ls => failsIn_pure _
  | status name => exact (failsIn_readBody .sentinel).bind fun ls => failsIn_pure _
  | _ => exact failsIn_pure _

theorem failsIn_complete (r : Reply) (c : Command) : FailsIn v OfTraffic (Client.complete r c) :=
  (cleanTraffic_complete r c).mono fun _ => CleanTraffic.ofTraffic

end Exchange

end LightHub
