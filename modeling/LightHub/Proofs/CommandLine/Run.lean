/-
  Runs, by how far they get.

  * `Plan.operation`: a plan as an operation on a session.
  * `Plan.fault_converse`: what can go wrong once a hub is connected to;
    `Plan.sent_converse`: what the hub has been sent in the end.
  * `Invocation.ofTask_of_step`: who connects.
  * `run_of_error`, `run_of_save`, `run_of_connect` and others: what a run comes
    to, for each way that it can take.
  * `run_congr_of_task`: **a run depends on its task only through the conversations
    that the task comes to.**
-/
import LightHub.CommandLine.Run
import LightHub.Proofs.Session.Transcript

namespace LightHub

/-! ## Conversations -/

namespace Plan

variable {plan : Plan} {s : Session} {e : Fault}

/-- What is asked of the session. -/
def operation : Plan → Operation
  | plain c => .execute c
  | sniff => .scan
  | addScan name => .addByScan name
  | addCode r => .addCode r.name r.on r.pulse
  | addPair r => .addPair r.name r.on r.off r.pulse

/-- What follows the exchange on the session is what follows its operation. -/
theorem on_exchange_snd (plan : Plan) (s : Session) :
    (plan.exchange.on s).2 = (plan.operation.perform.on s).2 := by
  cases plan <;> simp only [exchange, operation, Operation.perform, Exchange.on_map]

/-- Ending a session does not fail, so that the exchange is to blame. -/
theorem fault_converse (hs : s.sink.Steady) (hopen : s.closed = false) :
    (plan.converse s).fault = some e ↔ (plan.exchange.on s).1 = .error e := by
  obtain ⟨cs, rest, ht, -⟩ := plan.operation.asks_perform hs
  rw [← on_exchange_snd] at ht
  unfold converse
  rcases hon : plan.exchange.on s with ⟨f | lines, t⟩
  · simp
  · rw [hon] at ht
    obtain rfl : t = s.after cs rest := ht
    simp [Session.on_close (Session.steady_after cs rest hs) hopen]

end Plan

/-! ## Runs -/

/-- Only a task connects, once its plan has been made. -/
theorem Invocation.ofTask_of_step {inv : Invocation} {s s' : Settings} {plan : Plan}
    (h : inv.step s = .ok (.connect s' plan)) :
    ∃ t, inv.action = .task t ∧ Plan.ofTask s'.protocol t = .ok plan := by
  unfold step at h
  split at h
  next e _ =>
    cases e with
    | ip text =>
      obtain ⟨_, -, h⟩ := bind_eq_ok_iff.1 h
      cases h
    | port n =>
      obtain ⟨_, -, h⟩ := bind_eq_ok_iff.1 h
      cases h
  next t ht =>
    obtain ⟨plan', hplan, h⟩ := bind_eq_ok_iff.1 h
    cases h
    exact ⟨t, ht, hplan⟩

/-- How a run ends that has connected. -/
def Conversation.verdict (c : Conversation) : Verdict :=
  match c.fault with
  | none => .success
  | some e => .failure e

theorem Conversation.verdict_eq_failure_iff {c : Conversation} {e : Fault} :
    c.verdict = .failure e ↔ c.fault = some e := by
  unfold verdict
  cases c.fault <;> simp

section

variable {args : List String} {m : Machine} {inv : Invocation} {e : Fault}
  {s : Settings}

/-- What a run comes to whose settings cannot be loaded, or whose action cannot be
    prepared. -/
theorem run_of_error (hparse : Invocation.parse args = .ok inv)
    (hstep : Settings.load (inv.path m.configured m.home) m.shelf >>= inv.step = .error e) :
    run args m = { lines := [], verdict := .failure e, received := none, shelf := m.shelf } := by
  simp only [run, hparse, hstep]

section Save

variable {line : String} {shelf : Shelf}

theorem run_of_save_error (hparse : Invocation.parse args = .ok inv)
    (hstep : Settings.load (inv.path m.configured m.home) m.shelf >>= inv.step =
      .ok (.save s line))
    (hsave : s.save (inv.path m.configured m.home) m.shelf = (.error e, shelf)) :
    run args m = { lines := [], verdict := .failure e, received := none, shelf } := by
  simp only [run, hparse, hstep, hsave]

theorem run_of_save (hparse : Invocation.parse args = .ok inv)
    (hstep : Settings.load (inv.path m.configured m.home) m.shelf >>= inv.step =
      .ok (.save s line))
    (hsave : s.save (inv.path m.configured m.home) m.shelf = (.ok (), shelf)) :
    run args m = { lines := [line], verdict := .success, received := none, shelf } := by
  simp only [run, hparse, hstep, hsave]

end Save

section Connect

variable {plan : Plan}

theorem run_of_refused (hparse : Invocation.parse args = .ok inv)
    (hstep : Settings.load (inv.path m.configured m.home) m.shelf >>= inv.step =
      .ok (.connect s plan))
    (hdial : m.dial s.hub = none) :
    run args m = { lines := [], verdict := .failure (.transport .socket), received := none,
                   shelf := m.shelf } := by
  simp only [run, hparse, hstep, hdial]

theorem run_of_connect (hparse : Invocation.parse args = .ok inv)
    (hstep : Settings.load (inv.path m.configured m.home) m.shelf >>= inv.step =
      .ok (.connect s plan))
    {hub : List UInt8} (hdial : m.dial s.hub = some hub) :
    let c := plan.converse { version := s.protocol, unread := hub }
    run args m = { lines := c.lines, verdict := c.verdict, received := some c.sent,
                   shelf := m.shelf } := by
  simp only [run, hparse, hstep, hdial]
  rfl

end Connect

end

/-! ## Runs with the same conversations -/

/-- The settings that a task is run with: those of the file, but for the hub. -/
def Invocation.settings (inv : Invocation) (s : Settings) : Settings :=
  match inv.hub with
  | some hub => s.setHub hub
  | none => s

theorem Invocation.step_of_task {inv : Invocation} {t : Task} (h : inv.action = .task t)
    (s : Settings) :
    inv.step s = (Plan.ofTask (inv.settings s).protocol t).map (Step.connect (inv.settings s)) := by
  rw [step, h]
  change (Plan.ofTask (inv.settings s).protocol t >>= fun plan =>
    pure (Step.connect (inv.settings s) plan)) = _
  cases Plan.ofTask (inv.settings s).protocol t with
  | error e => rfl
  | ok plan => rfl

/-- What a run does depends on its task only through the conversations that the task
    comes to. -/
theorem run_congr_of_task {args args' : List String} {o : Options} {t t' : Task}
    (hparse : Invocation.parse args = .ok { o with action := .task t })
    (hparse' : Invocation.parse args' = .ok { o with action := .task t' })
    (h : ∀ v, (Plan.ofTask v t').map Plan.converse = (Plan.ofTask v t).map Plan.converse)
    (m : Machine) : run args' m = run args m := by
  let inv : Invocation := { o with action := .task t }
  let inv' : Invocation := { o with action := .task t' }
  have htask : inv.action = .task t := rfl
  have htask' : inv'.action = .task t' := rfl
  cases hload : Settings.load (inv.path m.configured m.home) m.shelf with
  | error e =>
    have hstep : Settings.load (inv.path m.configured m.home) m.shelf >>= inv.step = .error e := by
      rw [hload]
      rfl
    have hstep' : Settings.load (inv'.path m.configured m.home) m.shelf >>= inv'.step =
        .error e := by
      change Settings.load (inv.path m.configured m.home) m.shelf >>= inv'.step = _
      rw [hload]
      rfl
    rw [run_of_error hparse hstep, run_of_error hparse' hstep']
  | ok s =>
    have hstep : Settings.load (inv.path m.configured m.home) m.shelf >>= inv.step =
        (Plan.ofTask (inv.settings s).protocol t).map (Step.connect (inv.settings s)) := by
      rw [hload]
      exact Invocation.step_of_task htask s
    have hstep' : Settings.load (inv'.path m.configured m.home) m.shelf >>= inv'.step =
        (Plan.ofTask (inv.settings s).protocol t').map (Step.connect (inv.settings s)) := by
      change Settings.load (inv.path m.configured m.home) m.shelf >>= inv'.step = _
      rw [hload]
      exact Invocation.step_of_task htask' s
    have hplans := h (inv.settings s).protocol
    cases hplan : Plan.ofTask (inv.settings s).protocol t with
    | error e =>
      rw [hplan] at hplans hstep
      rw [map_eq_error_iff.1 hplans] at hstep'
      rw [run_of_error hparse hstep, run_of_error hparse' hstep']
    | ok plan =>
      rw [hplan] at hplans hstep
      cases hplan' : Plan.ofTask (inv.settings s).protocol t' with
      | error e =>
        rw [hplan'] at hplans
        cases hplans
      | ok plan' =>
        rw [hplan'] at hplans hstep'
        have hsame : plan'.converse = plan.converse := Except.ok.inj hplans
        cases hdial : m.dial (inv.settings s).hub with
        | none => rw [run_of_refused hparse hstep hdial, run_of_refused hparse' hstep' hdial]
        | some hub =>
          rw [run_of_connect hparse hstep hdial, run_of_connect hparse' hstep' hdial, hsame]

end LightHub
