/-
  What a whole session writes.

  * `Operation.Asks`: what an operation may send.
  * `Script.Asks`: the requests of a script, operation by operation.
  * `total_eq_transcript`: **a session writes the requests of its operations and
    one quit line**, and nothing else.
-/
import LightHub.Proofs.Client.Plain
import LightHub.Proofs.Remote.Runs
import LightHub.Proofs.Wire.Line

namespace LightHub

/-- The lines of a session are its requests and the quit line. -/
theorem lines_transcript {v : Version} {cs : List Command} (h : ∀ c ∈ cs, c.Sendable v) :
    Stream.lines (transcript v cs ++ Text.bytes Command.quitLine) =
      cs.map (fun c => Text.bytes (c.line v)) ++ [Text.bytes Command.quitLine] := by
  have hall : ∀ l ∈ cs.map (fun c => Text.bytes (c.line v)) ++ [Text.bytes Command.quitLine],
      Stream.IsLine l := by
    rw [List.forall_mem_append, List.forall_mem_map, List.forall_mem_singleton]
    exact ⟨fun c hc => Command.isLine_line (h c hc), Command.isLine_quitLine⟩
  rw [← Stream.lines_flatten hall]
  simp [transcript, List.flatMap_def]

/-! ## Operations -/

namespace Operation

/-- What an operation may send in a session of version `v`: the requests that it
    makes, as far as they may be sent, or what learners send. -/
inductive Asks (v : Version) (op : Operation) : List Command → Prop
  | requests {asked : List Command} : op.asked? = some asked → Asks v op (sent v asked)
  | learner {cs : List Command} : op.asked? = none → Learner.MaySend v cs → Asks v op cs

theorem writes_perform {op : Operation} {asked : List Command} (v : Version)
    (h : op.asked? = some asked) : Exchange.Writes v op.perform (transcript v (sent v asked)) := by
  cases op <;> cases h
  case readReply => exact (Exchange.writes_reading _).map _
  case readBody ending => exact (Exchange.writes_reading _).map _
  all_goals exact (plain_perform rfl).writes

theorem learner_perform {op : Operation} {s : Session} (hs : s.sink.Steady)
    (h : op.asked? = none) :
    ∃ cs rest, (op.perform.on s).2 = s.after cs rest ∧ Learner.MaySend s.version cs := by
  cases op with
  | scan =>
    rw [perform, Exchange.on_map]
    exact (Learner.drives_sniffFor 3 (.start "scan") hs).maySend
  | addByScan name =>
    rw [perform, Exchange.on_map]
    exact (Learner.drives_runFor _ (.start name) hs).maySend
  | addCode name code pulse =>
    rw [perform, Exchange.on_map]
    exact (Learner.drives_runFor _ (.ofLearned name _) hs).maySend
  | addPair name on off pulse =>
    rw [perform, Exchange.on_map, Client.addPair, Exchange.on_bind, Exchange.on_ofResult]
    cases Registration.ofCodes name on off pulse with
    | error e =>
      exact ⟨[], s.unread, s.after_nil.symm, List.forall_mem_nil _, none, List.nil_sublist _⟩
    | ok device => exact (Learner.drives_runFor _ (.ofRegistration device) hs).maySend
  | learn l actions => exact (Learner.drives_act l actions hs).maySend
  | _ => cases h

/-- **An operation sends the requests that it makes**, or nothing. -/
theorem asks_perform (op : Operation) {s : Session} (hs : s.sink.Steady) :
    ∃ cs rest, (op.perform.on s).2 = s.after cs rest ∧ op.Asks s.version cs := by
  cases h : op.asked? with
  | some asked =>
    obtain ⟨rest, ht⟩ := (writes_perform s.version h).sends s hs rfl
    exact ⟨_, rest, ht, .requests h⟩
  | none =>
    obtain ⟨cs, rest, ht, hcs⟩ := learner_perform hs h
    exact ⟨cs, rest, ht, .learner h hcs⟩

theorem Asks.sendable {op : Operation} {v : Version} {cs : List Command} (h : op.Asks v cs) :
    ∀ c ∈ cs, c.Sendable v := by
  cases h with
  | requests _ => exact fun c hc => (mem_sent.1 hc).2
  | learner _ hcs => exact hcs.sendable

end Operation

/-! ## Ends -/

namespace Session

variable {s : Session}

/-- An open session tries to write the quit line. -/
theorem on_close_of_open (h : s.closed = false) :
    let quit := Text.bytes Command.quitLine
    close.on s = ((s.sink.write quit).1.bind fun _ => (s.sink.push quit).flush,
      { s with closed := true, sink := s.sink.push quit }) := by
  rw [close, Exchange.on_bind, Exchange.on_get]
  simp only [h, Bool.false_eq_true, if_false, Exchange.on_bind, Exchange.on_set]
  rfl

theorem on_close (hs : s.sink.Steady) (h : s.closed = false) :
    close.on s = (.ok (), { s with
      closed := true
      sink := { s.sink with
        written := s.sink.written ++ Text.bytes Command.quitLine } }) := by
  rw [on_close_of_open h]
  obtain ⟨v, peer, unread, ⟨written, room, flushFails⟩, closed⟩ := s
  obtain ⟨rfl, rfl⟩ : room = none ∧ flushFails = false := ⟨hs.room, hs.flush⟩
  rfl

/-- A session that has been closed says nothing more. -/
theorem on_close_of_closed (h : s.closed = true) : close.on s = (.ok (), s) := by
  rw [close, Exchange.on_bind, Exchange.on_get]
  simp only [h, if_true, Exchange.on_pure]

end Session

namespace Script

/-- However a session ends, the quit line is tried once. -/
theorem sink_finish (ending : Ending) {s : Session} (h : s.closed = false) :
    (finish ending s).sink = s.sink.push (Text.bytes Command.quitLine) := by
  cases ending with
  | close =>
    rw [finish, Session.on_close_of_open h, Session.drop, Session.on_close_of_closed rfl]
  | drop => rw [finish, Session.drop, Session.on_close_of_open h]

theorem written_finish (ending : Ending) {s : Session} (hs : s.sink.Steady)
    (h : s.closed = false) :
    (finish ending s).sink.written = s.sink.written ++ Text.bytes Command.quitLine := by
  rw [sink_finish ending h, Sink.written_push, Sink.fitting, hs.room]

/-! ## Scripts -/

/-- The requests of a script, operation by operation. -/
inductive Asks (v : Version) : List Operation → List Command → Prop
  | nil : Asks v [] []
  | cons {op : Operation} {ops : List Operation} {cs ds : List Command} :
      op.Asks v cs → Asks v ops ds → Asks v (op :: ops) (cs ++ ds)

theorem Asks.sendable {v : Version} {ops : List Operation} {cs : List Command}
    (h : Asks v ops cs) : ∀ c ∈ cs, c.Sendable v := by
  induction h with
  | nil => exact nofun
  | cons hop _ ih => exact List.forall_mem_append.2 ⟨hop.sendable, ih⟩

theorem play_eq_after (ops : List Operation) {s : Session} (hs : s.sink.Steady) :
    ∃ cs rest, play ops s = s.after cs rest ∧ Asks s.version ops cs := by
  induction ops generalizing s with
  | nil => exact ⟨[], s.unread, s.after_nil.symm, .nil⟩
  | cons op ops ih =>
    obtain ⟨cs, rest, hop, hcs⟩ := op.asks_perform hs
    obtain ⟨ds, rest', hops, hds⟩ := ih (Session.steady_after cs rest hs)
    refine ⟨cs ++ ds, rest', ?_, .cons hcs hds⟩
    rw [play, hop, hops, Session.after_after]

theorem exists_transcript (v : Version) (peer : String) (hub : List UInt8)
    (ops : List Operation) :
    ∃ cs, Asks v ops cs ∧ ∀ ending, total ops ending (Session.opened v peer hub) =
      transcript v cs ++ Text.bytes Command.quitLine := by
  have hs := Session.steady_opened v peer hub
  obtain ⟨cs, rest, hplay, hcs⟩ := play_eq_after ops hs
  refine ⟨cs, hcs, fun ending => ?_⟩
  rw [total, hplay, written_finish ending (Session.steady_after cs rest hs) rfl,
    Session.written_after]
  rfl

/-- **A session writes the requests of its operations and one quit line.**
    Whatever the hub says, wherever operations fail and however the session ends,
    every request goes out as one line, whole and fit to be sent, and the quit
    line comes last. -/
theorem total_eq_transcript (v : Version) (peer : String) (hub : List UInt8)
    (ops : List Operation) :
    ∃ cs, Asks v ops cs ∧
      (∀ c ∈ cs, c.Sendable v ∧ Stream.IsLine (Text.bytes (c.line v))) ∧
      ∀ ending,
        let written := total ops ending (Session.opened v peer hub)
        written = transcript v cs ++ Text.bytes Command.quitLine ∧
          Stream.lines written =
            cs.map (fun c => Text.bytes (c.line v)) ++ [Text.bytes Command.quitLine] := by
  obtain ⟨cs, hcs, htotal⟩ := exists_transcript v peer hub ops
  refine ⟨cs, hcs, fun c hc => ⟨hcs.sendable c hc, Command.isLine_line (hcs.sendable c hc)⟩, ?_⟩
  intro ending
  refine ⟨htotal ending, ?_⟩
  rw [htotal ending]
  exact lines_transcript hcs.sendable

end Script

end LightHub
