/-
  Sessions over writers that fail.

  * `Script.asked`: the requests of operations that do not learn.
  * `play_eq_pushed`: what they try to write depends neither on the hub nor on the
    writer.
  * `total_of_limit`: **a writer that fails cuts the transcript off**, and that is
    all that it does to it.
-/
import LightHub.Proofs.Session.Transcript

namespace LightHub.Script

/-- The requests of operations that do not learn, in order. -/
def asked (ops : List Operation) : List Command :=
  ops.flatMap fun op => op.asked?.getD []

/-- What operations that do not learn try to write depends neither on the hub nor on
    the writer. -/
theorem play_eq_pushed {ops : List Operation} (h : ∀ op ∈ ops, op.asked?.isSome) (s : Session) :
    ∃ unread, play ops s = s.pushed (transcript s.version (sent s.version (asked ops))) unread := by
  induction ops generalizing s with
  | nil => exact ⟨s.unread, s.pushed_nil.symm⟩
  | cons op ops ih =>
    obtain ⟨cs, hcs⟩ := Option.isSome_iff_exists.1 (h op List.mem_cons_self)
    obtain ⟨u, hop⟩ := Operation.writes_perform s.version hcs s rfl
    obtain ⟨w, hops⟩ := ih (fun op hop => h op (List.mem_cons_of_mem _ hop)) (op.perform.on s).2
    refine ⟨w, ?_⟩
    have hsent : sent s.version (asked (op :: ops)) =
        sent s.version cs ++ sent s.version (asked ops) := by
      rw [asked, List.flatMap_cons, hcs, sent, List.filter_append]
      rfl
    have hversion : (op.perform.on s).2.version = s.version := by rw [hop]; rfl
    rw [play, hops, hversion, hop, Session.pushed_pushed, hsent, transcript_append]

/-- The transcript of a script that does not learn, as far as the writer takes it. -/
theorem total_eq_fitting {ops : List Operation} (h : ∀ op ∈ ops, op.asked?.isSome)
    (ending : Ending) {s : Session} (hopen : s.closed = false) :
    total ops ending s = s.sink.written ++ s.sink.fitting
      (transcript s.version (sent s.version (asked ops)) ++ Text.bytes Command.quitLine) := by
  obtain ⟨u, hplay⟩ := play_eq_pushed h s
  have hclosed : (play ops s).closed = false := by rw [hplay]; exact hopen
  rw [total, sink_finish ending hclosed, hplay, Session.pushed, Sink.push_push, Sink.written_push]

/-- **A writer that fails cuts the transcript off.**  Let `whole` be what a script of
    plain requests writes if the hub says nothing and the writer takes everything.
    Then whatever the hub says and whether or not the writer can be flushed, a
    writer that takes `n` bytes is left with the first `n` bytes of `whole`, and one
    without a limit with all of it: the requests and one quit line, also if closing
    fails because the writer cannot be flushed. -/
theorem total_of_limit (v : Version) (peer : String) (hub : List UInt8) {ops : List Operation}
    (h : ∀ op ∈ ops, op.asked?.isSome) (ending : Ending) (flushFails : Bool) :
    let whole := total ops ending (Session.opened v peer [])
    let limited (room : Option Nat) : Session :=
      { version := v, peer, unread := hub, sink := { room, flushFails } }
    (∀ n, total ops ending (limited (some n)) = whole.take n) ∧
      total ops ending (limited none) = whole ∧
      whole = (play ops (limited none)).sink.written ++ Text.bytes Command.quitLine ∧
      (flushFails = true →
        (Session.close.on (play ops (limited none))).1 = .error (.transport .flush)) := by
  intro whole limited
  have hwhole : whole = transcript v (sent v (asked ops)) ++ Text.bytes Command.quitLine :=
    total_eq_fitting h ending rfl
  obtain ⟨u, hplay⟩ := play_eq_pushed h (limited none)
  refine ⟨fun n => ?_, ?_, ?_, ?_⟩
  · rw [hwhole]
    exact total_eq_fitting h ending rfl
  · rw [hwhole]
    exact total_eq_fitting h ending rfl
  · rw [hwhole, hplay]
    rfl
  · rintro rfl
    have hclosed : (play ops (limited none)).closed = false := by rw [hplay]; rfl
    rw [Session.on_close_of_open hclosed, hplay]
    rfl

/-- A request that is refused, one that the hub rejects and one without a reply, over
    a writer that cannot be flushed. -/
theorem total_of_limit_rejected :
    let ops : List Operation :=
      [.send (.toggle "my lamp"), .execute .list, .request (.toggle "lamp")]
    let hub := Text.bytes "KL/0.3 500 busy\n"
    let whole := total ops .close (Session.opened .current "hub" [])
    let limited (room : Option Nat) : Session :=
      { version := .current, unread := hub, sink := { room, flushFails := true } }
    (∀ op ∈ ops, op.asked?.isSome) ∧
      whole = Text.bytes "LIST KL/0.3\nTOGGLE lamp KL/0.3\nQ\n" ∧
      (∀ n, total ops .close (limited (some n)) = whole.take n) ∧
      total ops .close (limited none) = whole ∧
      whole = (play ops (limited none)).sink.written ++ Text.bytes Command.quitLine ∧
      (Session.close.on (play ops (limited none))).1 = .error (.transport .flush) := by
  intro ops hub whole limited
  have hplain : ∀ op ∈ ops, op.asked?.isSome := by decide
  obtain ⟨hcut, hall, hquit, hclose⟩ :=
    total_of_limit .current "hub" hub hplain .close true
  exact ⟨hplain, by decide +kernel, hcut, hall, hquit, hclose rfl⟩

end LightHub.Script
