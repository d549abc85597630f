/-
  Runs of a learner, as transitions of the stage and the session.

  * `Moves`: what one step does; `moves_advance`: **every step is a move.**
  * `Reaches`: moves one after the other.
  * `Event.done?`: the device that an event reports as added.
  * `drives_act`: **whatever is asked of a learner, it only makes moves**, and
    a device that it reports as added is added in the end.
  * `Drives.maySend`: what a run sends, from whatever stage it starts.
-/
import LightHub.Proofs.Session.Exchange
import LightHub.Script

namespace LightHub.Learner

/-! ## Moves -/

/-- One step of a run under the device name `name`, on a session whose writer
    is steady. -/
inductive Moves (name : String) : Stage → Session → Stage → Session → Prop
  | sniff {s : Session} : Command.sniff.Sendable s.version →
      Moves name .idle s .awaitingArm (s.after [.sniff] s.unread)
  | arm {s : Session} {r : Reply} {rest : List UInt8} :
      Stream.readReply s.unread = (.ok r, rest) → r.status = .ok →
      Moves name .awaitingArm s .awaitingCapture (s.after [] rest)
  | capture {s : Session} {r : Reply} {rest : List UInt8} {learned : Learned} :
      Stream.readReply s.unread = (.ok r, rest) → captured r = .ok learned →
      Moves name .awaitingCapture s (.validating learned) (s.after [] rest)
  | derive {s : Session} {learned : Learned} {device : Registration} :
      Registration.ofLearned name learned = .ok device →
      Moves name (.validating learned) s (.derived device) s
  | add {s : Session} {device : Registration} : device.command.Sendable s.version →
      Moves name (.derived device) s (.awaitingAddAck device)
        (s.after [device.command] s.unread)
  | ack {s : Session} {device : Registration} {r : Reply} {rest : List UInt8} :
      Stream.readReply s.unread = (.ok r, rest) → r.status = .ok ∨ r.status = .deviceAdded →
      Moves name (.awaitingAddAck device) s (.done device) (s.after [] rest)
  | fail {stage : Stage} {s : Session} (rest : List UInt8) : stage.isTerminal = false →
      Moves name stage s .failed (s.after [] rest)
  | stay {stage : Stage} {s : Session} : stage.isTerminal → Moves name stage s stage s

/-- The stage that a step leaves behind. -/
def settled : Except Fault Stage → Stage
  | .ok stage => stage
  | .error _ => .failed

section

variable {name : String} {stage : Stage} {s : Session}

/-- A step that fails before it sends anything, in a stage that can fail. -/
theorem Moves.fail_unread (h : stage.isTerminal = false) : Moves name stage s .failed s := by
  have hfail : Moves name stage s .failed (s.after [] s.unread) := .fail s.unread h
  rwa [Session.after_nil] at hfail

/-- A step that sends one request, or fails with nothing sent. -/
theorem moves_send {c : Command} {next : Stage} (hs : s.sink.Steady)
    (hstage : stage.isTerminal = false)
    (h : c.Sendable s.version → Moves name stage s next (s.after [c] s.unread)) :
    let r := (Session.send c >>= fun _ => pure next).on s
    Moves name stage s (settled r.1) r.2 := by
  intro r
  by_cases hc : c.Sendable s.version
  · have hr : r = (.ok next, s.after [c] s.unread) := by
      simp only [r, Exchange.on_bind, Session.on_send hs hc, Exchange.on_pure]
    rw [hr]
    exact h hc
  · obtain ⟨e, he⟩ := Session.on_send_of_not_sendable hc
    have hr : r = (.error e, s) := by
      simp only [r, Exchange.on_bind, he]
    rw [hr]
    exact .fail_unread hstage

/-- A step that reads a reply first. -/
theorem moves_reply {f : Reply → Exchange Stage} (hstage : stage.isTerminal = false)
    (h : ∀ r rest, Stream.readReply s.unread = (.ok r, rest) →
      let t := (f r).on (s.after [] rest)
      Moves name stage s (settled t.1) t.2) :
    let t := (Session.readReply >>= f).on s
    Moves name stage s (settled t.1) t.2 := by
  intro t
  rcases hr : Stream.readReply s.unread with ⟨e | r, rest⟩
  · have ht : t = (.error e, s.after [] rest) := by
      simp only [t, Exchange.on_bind, Session.on_readReply, hr]
    rw [ht]
    exact .fail rest hstage
  · have ht : t = (f r).on (s.after [] rest) := by
      simp only [t, Exchange.on_bind, Session.on_readReply, hr]
    rw [ht]
    exact h r rest hr

/-- **Every step is a move.** -/
theorem moves_advance (hs : s.sink.Steady) :
    Moves name stage s (settled ((advance name stage).on s).1) ((advance name stage).on s).2 := by
  cases stage with
  | idle => exact moves_send hs rfl .sniff
  | awaitingArm =>
    refine moves_reply rfl fun r rest hr => ?_
    by_cases hok : r.status = .ok
    · simpa [hok, settled] using Moves.arm hr hok
    · simpa [hok, settled] using Moves.fail rest rfl
  | awaitingCapture =>
    refine moves_reply rfl fun r rest hr => ?_
    cases hlearned : captured r with
    | error e => simpa [hlearned, settled, Except.map] using Moves.fail rest rfl
    | ok learned => simpa [hlearned, settled, Except.map] using Moves.capture hr hlearned
  | validating learned =>
    cases hdevice : Registration.ofLearned name learned with
    | error e => simpa [advance, hdevice, settled, Except.map] using Moves.fail_unread rfl
    | ok device => simpa [advance, hdevice, settled, Except.map] using Moves.derive hdevice
  | derived device => exact moves_send hs rfl .add
  | awaitingAddAck device =>
    refine moves_reply rfl fun r rest hr => ?_
    by_cases hok : r.status = .ok ∨ r.status = .deviceAdded
    · simpa [hok, settled] using Moves.ack hr hok
    · simpa [hok, settled] using Moves.fail rest rfl
  | done device => exact .stay rfl
  | failed => exact .stay rfl

theorem Moves.steady {next : Stage} {t : Session} (h : Moves name stage s next t)
    (hs : s.sink.Steady) : t.sink.Steady := by
  cases h with
  | derive | stay => exact hs
  | _ => exact Session.steady_after _ _ hs

/-- Nothing changes once the device is added. -/
theorem Moves.of_done {device : Registration} {next : Stage} {t : Session}
    (h : Moves name (.done device) s next t) : next = .done device := by
  cases h with
  | fail _ hterminal => simp [Stage.isTerminal] at hterminal
  | stay _ => rfl

end

/-! ## Runs -/

/-- Moves one after the other. -/
inductive Reaches (name : String) : Stage → Session → Stage → Session → Prop
  | refl {stage : Stage} {s : Session} : Reaches name stage s stage s
  | step {stage mid last : Stage} {s m t : Session} :
      Moves name stage s mid m → Reaches name mid m last t → Reaches name stage s last t

/-- What every move keeps, every run keeps. -/
theorem Reaches.keeps {name : String} {I : Stage → Session → Prop}
    (hI : ∀ {stage s next t}, Moves name stage s next t → I stage s → I next t)
    {stage last : Stage} {s t : Session} (h : Reaches name stage s last t) :
    I stage s → I last t := by
  induction h with
  | refl => exact id
  | step hmove _ ih => exact fun hi => ih (hI hmove hi)

theorem Reaches.of_done {name : String} {device : Registration} {last : Stage} {s t : Session}
    (h : Reaches name (.done device) s last t) : last = .done device :=
  h.keeps (I := fun stage _ => stage = .done device)
    (fun hmove hdone => by
      subst hdone
      exact hmove.of_done)
    rfl

theorem outcome_eq_ok_iff {l : Learner} {device : Registration} :
    l.outcome = .ok device ↔ l.stage = .done device := by
  unfold outcome
  cases l.stage <;> simp

/-- From `stage` and `s` on, `x` only makes moves, and brings `a` only where `P a`
    holds of the last stage. -/
def Drives {α : Type} (name : String) (stage : Stage) (s : Session) (x : Exchange α)
    (P : α → Stage → Prop) : Prop :=
  ∃ last, Reaches name stage s last (x.on s).2 ∧ ∀ a, (x.on s).1 = .ok a → P a last

section

variable {α : Type} {name : String} {stage : Stage} {s : Session} {P : α → Stage → Prop}

theorem drives_ofResult {r : Except Fault α} (h : ∀ a, r = .ok a → P a stage) :
    Drives name stage s (Exchange.ofResult r) P :=
  ⟨stage, .refl, h⟩

theorem drives_advance {f : Stage → Exchange α} (hs : s.sink.Steady)
    (hf : ∀ next t, t.sink.Steady → Drives name next t (f next) P) :
    Drives name stage s (advance name stage >>= f) P := by
  have hmove : Moves name stage s _ _ := moves_advance hs
  unfold Drives
  rw [Exchange.on_bind]
  rcases hr : (advance name stage).on s with ⟨e | next, t⟩
  · rw [hr] at hmove
    exact ⟨.failed, .step hmove .refl, nofun⟩
  · rw [hr] at hmove
    obtain ⟨last, hreach, hp⟩ := hf next t (hmove.steady hs)
    exact ⟨last, .step hmove hreach, hp⟩

end

/-- A bounded run ends well only where the device is added. -/
theorem drives_runFor (n : Nat) (l : Learner) {s : Session} (hs : s.sink.Steady) :
    Drives l.name l.stage s (runFor n l) fun device last => last = .done device := by
  induction n generalizing l s with
  | zero => exact drives_ofResult fun _ => outcome_eq_ok_iff.1
  | succ n ih =>
    rw [runFor]
    split_ifs with hterminal
    · exact drives_ofResult fun _ => outcome_eq_ok_iff.1
    · exact drives_advance hs fun next t ht => ih { l with stage := next } ht

/-- A bounded sniff ends well only where the code is captured. -/
theorem drives_sniffFor (n : Nat) (l : Learner) {s : Session} (hs : s.sink.Steady) :
    Drives l.name l.stage s (sniffFor n l) fun learned last => last = .validating learned := by
  fun_induction sniffFor n l generalizing s with
  | case1 n l learned h =>
    refine ⟨l.stage, .refl, fun _ heq => ?_⟩
    rw [h, ← Except.ok.inj heq]
  | case2 l n h ih | case3 l n h ih | case4 l n h ih =>
    exact drives_advance hs fun next t ht => ih next ht
  | case5 n l => exact ⟨l.stage, .refl, nofun⟩

/-! ## Actions -/

/-- The device that an event reports as added. -/
def Event.done? : Event → Option Registration
  | .stepped _ (.done device) | .ran (.ok device) => some device
  | _ => none

theorem run_step (l : Learner) {s t : Session} {r : Except Fault Stage}
    (h : (advance l.name l.stage).on s = (r, t)) :
    l.step.run s = ((r.map fun _ => (), { l with stage := settled r }), t) := by
  have h' : (advance l.name l.stage).run.run s = (r, t) := h
  rw [step, StateT.run_bind, h']
  cases r <;> rfl

theorem run_act_step (l : Learner) (actions : List Action) {s t : Session}
    {r : Except Fault Stage} (h : (advance l.name l.stage).on s = (r, t)) :
    (l.act (.step :: actions)).run s =
      (.stepped (r.map fun _ => ()) (settled r) ::
        ((act { l with stage := settled r } actions).run t).1,
        ((act { l with stage := settled r } actions).run t).2) := by
  rw [act, StateT.run_bind, run_step l h]
  rfl

theorem Event.eq_done_of_stepped {result : Except Fault Unit} {stage : Stage}
    {device : Registration} (h : (stepped result stage).done? = some device) :
    stage = .done device := by
  cases stage <;> simp_all [done?]

theorem Event.eq_ok_of_ran {result : Except Fault Registration} {device : Registration}
    (h : (ran result).done? = some device) : result = .ok device := by
  cases result <;> simp_all [done?]

theorem Event.done?_sniffed (result : Except Fault Learned) : (sniffed result).done? = none :=
  rfl

/-- **Whatever is asked of a learner, it only makes moves**, and a device that it
    reports as added is added in the end. -/
theorem drives_act (l : Learner) (actions : List Action) {s : Session} (hs : s.sink.Steady) :
    Drives l.name l.stage s (ExceptT.lift (l.act actions)) fun events last =>
      ∀ e ∈ events, ∀ device, e.done? = some device → last = .done device := by
  induction actions generalizing l s with
  | nil =>
    refine ⟨l.stage, .refl, ?_⟩
    rintro _ ⟨⟩ e he
    exact absurd he List.not_mem_nil
  | cons action actions ih =>
    cases action with
    | step =>
      have hmove : Moves l.name l.stage s _ _ := moves_advance hs
      rcases h : (advance l.name l.stage).on s with ⟨r, t⟩
      rw [h] at hmove
      obtain ⟨last, hreach, hp⟩ := ih { l with stage := settled r } (hmove.steady hs)
      unfold Drives
      rw [Exchange.on_lift, run_act_step l actions h]
      refine ⟨last, .step hmove hreach, ?_⟩
      rintro _ ⟨⟩ e he device hdone
      rcases List.mem_cons.1 he with rfl | he
      · rw [Event.eq_done_of_stepped hdone] at hreach
        exact hreach.of_done
      · exact hp _ rfl e he device hdone
    | run =>
      obtain ⟨last, hreach, hp⟩ := drives_runFor l.stage.left l hs
      refine ⟨last, hreach, ?_⟩
      rintro _ ⟨⟩ e he device hdone
      obtain rfl := List.mem_singleton.1 he
      exact hp device (Event.eq_ok_of_ran hdone)
    | sniff =>
      obtain ⟨last, hreach, -⟩ := drives_sniffFor 3 l hs
      refine ⟨last, hreach, ?_⟩
      rintro _ ⟨⟩ e he device hdone
      rw [List.mem_singleton.1 he, Event.done?_sniffed] at hdone
      exact absurd hdone nofun

/-! ## What learners send -/

/-- At most a request to listen and one device after it. -/
structure MaySend (v : Version) (cs : List Command) : Prop where
  sendable : ∀ c ∈ cs, c.Sendable v
  order : ∃ device : Option Registration, cs.Sublist (.sniff :: (device.map (·.command)).toList)

/-- What may have been sent when a run stands at a stage. -/
def SentAt : Stage → List Command → Prop
  | .idle, cs => cs = []
  | .awaitingArm, cs | .awaitingCapture, cs | .validating _, cs | .derived _, cs =>
    cs.Sublist [.sniff]
  | .awaitingAddAck _, cs | .done _, cs | .failed, cs =>
    ∃ device : Option Registration, cs.Sublist (.sniff :: (device.map (·.command)).toList)

theorem sentAt_nil (stage : Stage) : SentAt stage [] := by
  cases stage with
  | idle => rfl
  | awaitingAddAck | done | failed => exact ⟨none, List.nil_sublist _⟩
  | _ => exact List.nil_sublist _

theorem SentAt.failed {stage : Stage} {cs : List Command} (h : SentAt stage cs) :
    SentAt .failed cs := by
  cases stage with
  | idle =>
    rw [show cs = [] from h]
    exact sentAt_nil .failed
  | awaitingAddAck | done | failed => exact h
  | _ => exact ⟨none, h⟩

/-- A session `t` that has sent, since `s`, what the stage allows. -/
def Spoken (s : Session) (stage : Stage) (t : Session) : Prop :=
  ∃ cs rest, t = s.after cs rest ∧ (∀ c ∈ cs, c.Sendable s.version) ∧ SentAt stage cs

theorem Spoken.move {name : String} {stage next : Stage} {s t u : Session}
    (hmove : Moves name stage t next u) (h : Spoken s stage t) : Spoken s next u := by
  obtain ⟨cs, rest, rfl, hcs, hat⟩ := h
  cases hmove with
  | sniff hsend =>
    obtain rfl : cs = [] := hat
    exact ⟨[.sniff], rest, Session.after_after .., by simpa using hsend, List.Sublist.refl _⟩
  | arm _ _ | capture _ _ | ack _ _ => exact ⟨cs, _, Session.after_after_nil .., hcs, hat⟩
  | derive _ => exact ⟨cs, rest, rfl, hcs, hat⟩
  | add hsend =>
    refine ⟨_, rest, Session.after_after .., ?_, some _, List.Sublist.append hat (.refl _)⟩
    exact List.forall_mem_append.2 ⟨hcs, by simpa using hsend⟩
  | fail rest _ => exact ⟨cs, rest, Session.after_after_nil .., hcs, hat.failed⟩
  | stay _ => exact ⟨cs, rest, rfl, hcs, hat⟩

/-- **Moves send at most a request to listen and one device after it**, from
    whatever stage they start. -/
theorem Drives.maySend {α : Type} {name : String} {stage : Stage} {s : Session} {x : Exchange α}
    {P : α → Stage → Prop} (h : Drives name stage s x P) :
    ∃ cs rest, (x.on s).2 = s.after cs rest ∧ MaySend s.version cs := by
  obtain ⟨last, hreach, -⟩ := h
  have hstart : Spoken s stage s := ⟨[], s.unread, s.after_nil.symm, nofun, sentAt_nil stage⟩
  obtain ⟨cs, rest, ht, hcs, hat⟩ := hreach.keeps Spoken.move hstart
  exact ⟨cs, rest, ht, hcs, hat.failed⟩

end LightHub.Learner
