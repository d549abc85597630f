/-
  How exchanges run on a session, and what they write.

  * `Exchange.on_bind` and the lemmas after it: an exchange, run part by part.
  * `Sink.push`: a writer of any kind after an attempt to write.
  * `Sink.Steady`: a writer that does not fail; `Sink.Accepts`: one that does not fail
    on some bytes.
  * `transcript`: the bytes of a list of requests.
  * `Session.after`: a session that has sent requests and read replies since.
  * `on_send`: a request goes out as a whole, or nothing does; `eq_of_on_send`: the
    same for a writer of any kind.
  * `sent`: what a session lets out of a list of requests.
  * `Exchange.Writes`: what an exchange tries to write, whatever the hub replies
    and the writer takes; `Exchange.Sends`: what it sends if the writer is steady.
-/
import LightHub.Proofs.Wire.Checks
import LightHub.Session

namespace LightHub

/-! ## Running exchanges -/

namespace Exchange

variable {α β : Type}

@[simp]
theorem on_pure (a : α) (s : Session) : (pure a : Exchange α).on s = (.ok a, s) := rfl

theorem on_bind (x : Exchange α) (f : α → Exchange β) (s : Session) :
    (x >>= f).on s = match x.on s with
      | (.ok a, t) => (f a).on t
      | (.error e, t) => (.error e, t) := by
  unfold on
  rw [ExceptT.run_bind, StateT.run_bind]
  generalize x.run.run s = p
  obtain ⟨_ | a, t⟩ := p
  · rfl
  · rfl

/-- An exchange in two parts succeeds if both do. -/
theorem on_bind_eq_ok_iff {x : Exchange α} {f : α → Exchange β} {b : β} {s t : Session} :
    (x >>= f).on s = (.ok b, t) ↔ ∃ a m, x.on s = (.ok a, m) ∧ (f a).on m = (.ok b, t) := by
  rw [on_bind]
  rcases x.on s with ⟨e | a, m⟩
  · simp
  · constructor
    · intro h
      exact ⟨a, m, rfl, h⟩
    · rintro ⟨_, _, ⟨⟩, h⟩
      exact h

@[simp]
theorem on_map (f : α → β) (x : Exchange α) (s : Session) :
    (f <$> x).on s = ((x.on s).1.map f, (x.on s).2) := by
  unfold on
  rw [ExceptT.run_map, StateT.run_map]
  rfl

theorem on_map_eq_error_iff {f : α → β} {x : Exchange α} {e : Fault} {s t : Session} :
    (f <$> x).on s = (.error e, t) ↔ x.on s = (.error e, t) := by
  rw [on_map]
  rcases x.on s with ⟨_ | _, _⟩
  · simp [Except.map]
  · simp [Except.map]

@[simp]
theorem on_throw (e : Fault) (s : Session) : (throw e : Exchange α).on s = (.error e, s) := rfl

@[simp]
theorem on_get (s : Session) : (get : Exchange Session).on s = (.ok s, s) := rfl

@[simp]
theorem on_set (s t : Session) : (set t : Exchange PUnit).on s = (.ok ⟨⟩, t) := rfl

@[simp]
theorem on_ofResult (r : Except Fault α) (s : Session) : (ofResult r).on s = (r, s) := rfl

@[simp]
theorem on_reading (read : List UInt8 → Except Fault α × List UInt8) (s : Session) :
    (reading read).on s = ((read s.unread).1, { s with unread := (read s.unread).2 }) := rfl

@[simp]
theorem on_lift (x : StateM Session α) (s : Session) :
    on (ExceptT.lift x) s = (.ok (x.run s).1, (x.run s).2) := rfl

end Exchange

/-! ## Writers -/

namespace Sink

/-- The writer after an attempt to write bytes. -/
def push (bs : List UInt8) (k : Sink) : Sink :=
  (k.write bs).2

/-- What the writer takes of bytes. -/
def fitting (k : Sink) (bs : List UInt8) : List UInt8 :=
  match k.room with
  | none => bs
  | some n => bs.take n

@[simp]
theorem push_nil (k : Sink) : k.push [] = k := by
  obtain ⟨written, _ | n, flushFails⟩ := k
  · simp [push, write]
  · simp [push, write]

/-- Two attempts come to one: what is cut off in the first leaves no room for the
    second. -/
@[simp]
theorem push_push (k : Sink) (bs cs : List UInt8) : (k.push bs).push cs = k.push (bs ++ cs) := by
  obtain ⟨written, _ | n, flushFails⟩ := k
  · simp [push, write]
  · simp [push, write, List.take_append, Nat.sub_sub]

theorem written_push (k : Sink) (bs : List UInt8) :
    (k.push bs).written = k.written ++ k.fitting bs := by
  obtain ⟨written, _ | n, flushFails⟩ := k
  · rfl
  · rfl

/-- What has been written without an error has been taken as a whole. -/
theorem fitting_of_write_ok {k : Sink} {bs : List UInt8} (h : (k.write bs).1 = .ok ()) :
    k.fitting bs = bs := by
  obtain ⟨written, _ | n, flushFails⟩ := k
  · rfl
  · simp only [write] at h
    split at h
    · rename_i hfits
      exact List.take_of_length_le hfits
    · cases h

end Sink

/-! ## Steady writers -/

/-- A writer that takes every byte and does not fail to flush. -/
structure Sink.Steady (k : Sink) : Prop where
  room : k.room = none
  flush : k.flushFails = false

instance (k : Sink) : Decidable k.Steady :=
  decidable_of_iff (k.room = none ∧ k.flushFails = false)
    ⟨fun h => ⟨h.1, h.2⟩, fun h => ⟨h.1, h.2⟩⟩

/-- A writer that takes `bs`, and does not fail to flush. -/
structure Sink.Accepts (k : Sink) (bs : List UInt8) : Prop where
  takes : (k.write bs).1 = .ok ()
  flushes : k.flush = .ok ()

theorem Sink.Steady.accepts {k : Sink} (h : k.Steady) (bs : List UInt8) : k.Accepts bs := by
  obtain ⟨written, room, flushFails⟩ := k
  obtain ⟨rfl, rfl⟩ : room = none ∧ flushFails = false := ⟨h.room, h.flush⟩
  exact ⟨rfl, rfl⟩

theorem Sink.Accepts.written_push {k : Sink} {bs : List UInt8} (h : k.Accepts bs) :
    (k.push bs).written = k.written ++ bs := by
  rw [Sink.written_push, fitting_of_write_ok h.takes]

theorem Sink.flush_push (k : Sink) (bs : List UInt8) : (k.push bs).flush = k.flush := by
  obtain ⟨written, _ | n, flushFails⟩ := k <;> rfl

/-- The bytes of requests to hubs of version `v`, one after the other. -/
def transcript (v : Version) (cs : List Command) : List UInt8 :=
  cs.flatMap fun c => Text.bytes (c.line v)

@[simp]
theorem transcript_nil (v : Version) : transcript v [] = [] := rfl

@[simp]
theorem transcript_cons (v : Version) (c : Command) (cs : List Command) :
    transcript v (c :: cs) = Text.bytes (c.line v) ++ transcript v cs := rfl

@[simp]
theorem transcript_append (v : Version) (cs ds : List Command) :
    transcript v (cs ++ ds) = transcript v cs ++ transcript v ds :=
  List.flatMap_append

namespace Session

/-- A session on a hub that is going to say `hub`, before the first operation. -/
def opened (version : Version) (peer : String) (hub : List UInt8) : Session :=
  { version, peer, unread := hub }

theorem steady_opened (v : Version) (peer : String) (hub : List UInt8) :
    (opened v peer hub).sink.Steady :=
  ⟨rfl, rfl⟩

/-- The session once it has sent `cs`, with `unread` left of what the hub says. -/
def after (s : Session) (cs : List Command) (unread : List UInt8) : Session :=
  { s with
    unread
    sink := { s.sink with written := s.sink.written ++ transcript s.version cs } }

section After

variable (s : Session) (cs ds : List Command) (u w : List UInt8)

@[simp]
theorem version_after : (s.after cs u).version = s.version := rfl

@[simp]
theorem written_after :
    (s.after cs u).sink.written = s.sink.written ++ transcript s.version cs := rfl

@[simp]
theorem after_nil : s.after [] s.unread = s := by
  simp [after]

@[simp]
theorem after_after : (s.after cs u).after ds w = s.after (cs ++ ds) w := by
  simp [after]

theorem after_after_nil : (s.after cs u).after [] w = s.after cs w := by
  simp

theorem steady_after {s : Session} (h : s.sink.Steady) : (s.after cs u).sink.Steady :=
  ⟨h.room, h.flush⟩

end After

/-! ## Requests and replies -/

variable {s : Session} {c : Command}

theorem on_writing (hs : s.sink.Steady) (bs : List UInt8) :
    (Exchange.writing bs).on s =
      (.ok (), { s with sink := { s.sink with written := s.sink.written ++ bs } }) := by
  obtain ⟨v, peer, unread, ⟨written, room, flushFails⟩, closed⟩ := s
  obtain ⟨rfl, rfl⟩ : room = none ∧ flushFails = false := ⟨hs.room, hs.flush⟩
  rfl

/-- A request that may be sent goes out as a whole. -/
theorem on_send (hs : s.sink.Steady) (h : c.Sendable s.version) :
    (send c).on s = (.ok (), s.after [c] s.unread) := by
  simp only [send, write, Exchange.on_bind, Exchange.on_get, Exchange.on_ofResult, h.spoken,
    h.fits, on_writing hs]
  simp [after]

/-- A request that does not pass its checks leaves the session as it was, whatever the
    writer is like. -/
theorem on_send_of_vet_error {e : Fault} (h : c.vet s.version = .error e) :
    (send c).on s = (.error e, s) := by
  simp only [send, write, Exchange.on_bind, Exchange.on_get, Exchange.on_ofResult]
  cases hspoken : c.checkGeneration s.version with
  | error f =>
    rw [Command.vet, hspoken] at h
    rw [Except.error.inj h]
  | ok _ =>
    rw [Command.vet, hspoken] at h
    simp only [show c.validate = .error e from h]

theorem on_send_of_not_sendable (h : ¬ c.Sendable s.version) :
    ∃ e, (send c).on s = (.error e, s) := by
  obtain ⟨cause, hvet⟩ := Command.exists_of_not_sendable h
  exact ⟨_, on_send_of_vet_error hvet⟩

/-- A request that does not fit is refused. -/
theorem on_send_of_validate_error {e : Fault} (hspoken : c.checkGeneration s.version = .ok ())
    (hfits : c.validate = .error e) : (send c).on s = (.error e, s) := by
  apply on_send_of_vet_error
  rw [Command.vet, hspoken]
  exact hfits

@[simp]
theorem on_readReply (s : Session) :
    readReply.on s = ((Stream.readReply s.unread).1,
      s.after [] (Stream.readReply s.unread).2) := by
  simp [readReply, after]

@[simp]
theorem on_readBody (ending : BodyEnd) (s : Session) :
    (readBody ending).on s = ((Stream.readBody ending s.unread).1,
      s.after [] (Stream.readBody ending s.unread).2) := by
  simp [readBody, after]

end Session

/-! ## What exchanges send -/

/-- The requests among `cs` that a session of version `v` lets out. -/
def sent (v : Version) (cs : List Command) : List Command :=
  cs.filter fun c => c.Sendable v

theorem mem_sent {v : Version} {c : Command} {cs : List Command} :
    c ∈ sent v cs ↔ c ∈ cs ∧ c.Sendable v := by
  simp [sent]

/-- The session after an attempt to write `bs`, with `unread` left of what the hub
    says. -/
def Session.pushed (s : Session) (bs unread : List UInt8) : Session :=
  { s with unread, sink := s.sink.push bs }

@[simp]
theorem Session.pushed_nil (s : Session) : s.pushed [] s.unread = s := by
  simp [pushed]

@[simp]
theorem Session.pushed_pushed (s : Session) (bs cs u w : List UInt8) :
    (s.pushed bs u).pushed cs w = s.pushed (bs ++ cs) w := by
  simp [pushed]

/-- A request that may be sent is tried as a whole. -/
theorem Session.on_send_eq_pushed {s : Session} {c : Command} (h : c.Sendable s.version) :
    let line := Text.bytes (c.line s.version)
    (send c).on s =
      ((s.sink.write line).1.bind fun _ => (s.sink.push line).flush, s.pushed line s.unread) := by
  simp only [send, write, Exchange.on_bind, Exchange.on_get, Exchange.on_ofResult, h.spoken, h.fits]
  rfl

theorem Session.on_send_of_accepts {s : Session} {c : Command} (hc : c.Sendable s.version)
    (h : s.sink.Accepts (Text.bytes (c.line s.version))) :
    (send c).on s = (.ok (), { s with sink := s.sink.push (Text.bytes (c.line s.version)) }) := by
  rw [on_send_eq_pushed hc, h.takes, Sink.flush_push, h.flushes]
  rfl

/-- A request that has gone out may be sent, and the writer has taken all of it. -/
theorem Session.eq_of_on_send {s t : Session} {c : Command} (h : (send c).on s = (.ok (), t)) :
    c.Sendable s.version ∧ t = s.pushed (Text.bytes (c.line s.version)) s.unread ∧
      t.sink.written = s.sink.written ++ Text.bytes (c.line s.version) := by
  by_cases hc : c.Sendable s.version
  · rw [on_send_eq_pushed hc] at h
    obtain ⟨hok, rfl⟩ := Prod.mk.inj h
    refine ⟨hc, rfl, ?_⟩
    rw [pushed, Sink.written_push, Sink.fitting_of_write_ok]
    cases hwrite : (s.sink.write (Text.bytes (c.line s.version))).1 with
    | ok _ => rfl
    | error e =>
      rw [hwrite] at hok
      cases hok
  · obtain ⟨e, he⟩ := on_send_of_not_sendable hc
    rw [he] at h
    cases h

theorem Session.pushed_transcript {s : Session} (hs : s.sink.Steady) (cs : List Command)
    (u : List UInt8) : s.pushed (transcript s.version cs) u = s.after cs u := by
  obtain ⟨v, peer, unread, ⟨written, room, flushFails⟩, closed⟩ := s
  obtain ⟨rfl, rfl⟩ : room = none ∧ flushFails = false := ⟨hs.room, hs.flush⟩
  rfl

namespace Exchange

variable {α β : Type} {v : Version} {cs : List Command} {bs : List UInt8}

/-- On sessions of version `v`, `x` tries to write exactly `bs`, whatever the hub
    says, whatever the writer takes and wherever `x` fails. -/
def Writes (v : Version) (x : Exchange α) (bs : List UInt8) : Prop :=
  ∀ s : Session, s.version = v → ∃ unread, (x.on s).2 = s.pushed bs unread

/-- On sessions of version `v`, `x` sends exactly `cs`, whatever the hub says
    and wherever `x` fails. -/
def Sends (v : Version) (x : Exchange α) (cs : List Command) : Prop :=
  ∀ s : Session, s.sink.Steady → s.version = v → ∃ unread, (x.on s).2 = s.after cs unread

/-- A steady writer takes all that is tried. -/
theorem Writes.sends {x : Exchange α} (h : Writes v x (transcript v cs)) : Sends v x cs := by
  rintro s hs rfl
  obtain ⟨u, hu⟩ := h s rfl
  exact ⟨u, hu.trans (Session.pushed_transcript hs cs u)⟩

theorem writes_pure (a : α) : Writes v (pure a : Exchange α) [] :=
  fun s _ => ⟨s.unread, s.pushed_nil.symm⟩

theorem writes_ofResult (r : Except Fault α) : Writes v (ofResult r) [] :=
  fun s _ => ⟨s.unread, s.pushed_nil.symm⟩

theorem writes_reading (read : List UInt8 → Except Fault α × List UInt8) :
    Writes v (reading read) [] := by
  intro s _
  refine ⟨(read s.unread).2, ?_⟩
  simp [Session.pushed]

theorem writes_send (c : Command) : Writes v (Session.send c) (transcript v (sent v [c])) := by
  rintro s rfl
  refine ⟨s.unread, ?_⟩
  by_cases h : c.Sendable s.version
  · rw [Session.on_send_eq_pushed h]
    simp [sent, h]
  · obtain ⟨e, he⟩ := Session.on_send_of_not_sendable h
    rw [he]
    simp [sent, h]

theorem Writes.map {x : Exchange α} (h : Writes v x bs) (f : α → β) : Writes v (f <$> x) bs := by
  intro s hv
  rw [on_map]
  exact h s hv

/-- What comes after the requests only reads. -/
theorem Writes.bind {x : Exchange α} {f : α → Exchange β} (hx : Writes v x bs)
    (hf : ∀ a, Writes v (f a) []) : Writes v (x >>= f) bs := by
  intro s hv
  obtain ⟨u, hu⟩ := hx s hv
  rw [on_bind]
  rcases hr : x.on s with ⟨e | a, t⟩
  · exact ⟨u, by rw [← hu, hr]⟩
  · obtain rfl : t = s.pushed bs u := by rw [← hu, hr]
    obtain ⟨w, hw⟩ := hf a (s.pushed bs u) hv
    exact ⟨w, by simpa using hw⟩

end Exchange

end LightHub
