/-
  Remotes that are refused over their arguments.

  * `Exchange.Guarded`: an exchange is refused before it has done anything, or the
    hub is to blame for what goes wrong.
  * `Client.traffic_of_on_scan`: what has been sent and read when a code is captured.
  * `Client.fault_addByScan`: what can go wrong when a remote is learned.
  * `Operation.perform_of_usage`: **arguments are blamed before anything is done**,
    unless a code has been captured first.
-/
import LightHub.Proofs.Client.Plain
import LightHub.Proofs.Remote.Learning

namespace LightHub

open Text (IsWord)

/-! ## Guarded exchanges -/

namespace Exchange

open Fault (OfHub)

variable {α β : Type} {x : Exchange α} {s t : Session} {c : Command}

/-- On the session `s`, the exchange fails before it has done anything. -/
def Refuses (x : Exchange α) (s : Session) : Prop :=
  ∃ e, x.on s = (.error e, s)

theorem Plain.refuses (h : Plain x c) (hc : ¬ c.Sendable s.version) : Refuses x s := by
  obtain ⟨cause, hvet⟩ := Command.exists_of_not_sendable hc
  exact ⟨_, h.on_of_vet_error hvet⟩

/-- On the session `s`, the exchange is refused before it has done anything, or the
    hub is to blame for what goes wrong. -/
def Guarded (x : Exchange α) (s : Session) : Prop :=
  Refuses x s ∨ FailsIn s.version OfHub x

/-- So its arguments are blamed before it has done anything. -/
theorem Guarded.eq_of_usage {cause : UsageFault} (hx : Guarded x s)
    (h : x.on s = (.error (.usage cause), t)) : t = s := by
  rcases hx with ⟨e, he⟩ | hfails
  · rw [he] at h
    exact (congrArg Prod.snd h).symm
  · have hfault := (hfails s rfl).2
    rw [h] at hfault
    exact (hfault _ rfl).elim

theorem Guarded.map (hx : Guarded x s) (f : α → β) : Guarded (f <$> x) s := by
  rcases hx with ⟨e, he⟩ | hfails
  · exact Or.inl ⟨e, on_map_eq_error_iff.2 he⟩
  · exact Or.inr (hfails.map f)

theorem Plain.guarded (h : Plain x c) (s : Session) : Guarded x s := by
  by_cases hc : c.Sendable s.version
  · exact Or.inr (h.failsIn hc)
  · exact Or.inl (h.refuses hc)

/-- A device that cannot be made is not asked for. -/
theorem guarded_ofResult_bind_register (r : Except Fault Registration) (s : Session) :
    Guarded (ofResult r >>= Client.register) s := by
  cases r with
  | error e => exact Or.inl ⟨e, rfl⟩
  | ok device => exact (plain_register device).guarded s

end Exchange

/-! ## Learning a remote -/

theorem Registration.faultsIn_ofLearned (name : String) (learned : Learned) :
    FaultsIn (· = .invalidCode learned.code) (ofLearned name learned) :=
  FaultsIn.bind (fun _ => eq_of_derivePair_error) fun _ _ => faultsIn_ok _

namespace Client

variable {name : String} {s t : Session} {e : Fault} {learned : Learned}

/-- When a code has been captured, the sniff has gone out as a whole, and two replies
    have been read. -/
theorem traffic_of_on_scan (h : scan.on s = (.ok learned, t)) :
    t.sink.written = s.sink.written ++ Text.bytes (Command.sniff.line s.version) ∧
      t.unread = Stream.afterReplies 2 s.unread := by
  rw [scan_eq] at h
  obtain ⟨outcome, armed, hsniff, hlisten⟩ := Exchange.on_bind_eq_ok_iff.1 h
  obtain ⟨capture, heard, hcapture, hlearned⟩ := Exchange.on_bind_eq_ok_iff.1 hlisten
  rw [execute_eq] at hsniff
  obtain ⟨r, replied, hrequest, haccepted⟩ := Exchange.on_bind_eq_ok_iff.1 hsniff
  obtain ⟨⟨⟩, checked, hcheck, hcomplete⟩ := Exchange.on_bind_eq_ok_iff.1 haccepted
  obtain ⟨⟨⟩, asked, hsend, hreply⟩ := Exchange.on_bind_eq_ok_iff.1 hrequest
  obtain ⟨-, hasked, hwritten⟩ := Session.eq_of_on_send hsend
  rw [Session.on_readReply] at hreply hcapture
  -- the last two steps of the sniff, and the last one of the scan, only look at replies
  obtain rfl : replied = checked := congrArg Prod.snd hcheck
  obtain rfl : replied = armed := congrArg Prod.snd hcomplete
  obtain rfl : heard = t := congrArg Prod.snd hlearned
  obtain rfl := congrArg Prod.snd hreply
  obtain rfl := congrArg Prod.snd hcapture
  subst hasked
  refine ⟨?_, rfl⟩
  simpa using hwritten

/-- When a remote is learned, the hub is to blame, or the code that it has heard,
    or what the device would be.  For a code that has been heard, nothing more is done. -/
theorem fault_addByScan (hsniff : Command.sniff.Sendable s.version)
    (h : (addByScan name).on s = (.error e, t)) :
    e.OfHub ∨ ∃ learned, scan.on s = (.ok learned, t) ∧
      (Registration.ofLearned name learned = .error e ∨
        ∃ device, Registration.ofLearned name learned = .ok device ∧
          device.command.validate = .error e) := by
  obtain ⟨hversion, hfaults⟩ := Exchange.plain_scan.failsIn hsniff s rfl
  rw [addByScan_eq, Exchange.on_bind] at h
  rcases hscan : scan.on s with ⟨f | learned, m⟩
  · simp only [hscan] at h hfaults
    obtain rfl : f = e := Except.error.inj (congrArg Prod.fst h)
    exact .inl (hfaults f rfl)
  · rw [hscan] at hversion
    simp only [hscan, Exchange.on_bind, Exchange.on_ofResult] at h
    cases hdevice : Registration.ofLearned name learned with
    | error f =>
      simp only [hdevice] at h
      obtain ⟨rfl, rfl⟩ : f = e ∧ m = t := by simpa using h
      exact .inr ⟨learned, rfl, .inl hdevice⟩
    | ok device =>
      simp only [hdevice] at h
      have hspoken := Registration.checkGeneration_command hsniff device
      cases hfits : device.command.validate with
      | ok _ =>
        have hregister := (Exchange.plain_register device).failsIn ⟨hfits, hspoken⟩
        exact .inl ((hregister m hversion).2 e (congrArg Prod.fst h))
      | error f =>
        rw [on_register_of_validate_error (hversion ▸ hspoken) hfits] at h
        obtain ⟨rfl, rfl⟩ : f = e ∧ m = t := by simpa using h
        exact .inr ⟨learned, rfl, .inr ⟨device, hdevice, hfits⟩⟩

end Client

/-! ## Operations -/

/-- Whether an operation learns a remote in one call. -/
def Operation.isRemote : Operation → Bool
  | scan | addByScan _ | addCode .. | addPair .. => true
  | _ => false

/-- The hub lets a code be captured, but no device can be added by it: its name is no
    word, or its pulse has no length. -/
def Session.LearnsMisfit (s : Session) (name : String) : Prop :=
  ∃ learned device, (Client.scan.on s).1 = .ok learned ∧
    Registration.ofLearned name learned = .ok device ∧ ¬ (IsWord name ∧ learned.pulse ≠ 0)

namespace Client

variable {name : String} {s t : Session} {cause : UsageFault}

/-- A remote that is learned is blamed on its arguments either before the sniff, or
    after a code has been captured whose device does not fit. -/
theorem addByScan_of_usage (h : (addByScan name).on s = (.error (.usage cause), t)) :
    t = s ∧ ¬ s.LearnsMisfit name ∨
      s.LearnsMisfit name ∧ ∃ learned, scan.on s = (.ok learned, t) := by
  by_cases hsniff : Command.sniff.Sendable s.version
  · right
    rcases fault_addByScan hsniff h with
      hhub | ⟨learned, hscan, hdevice | ⟨device, hdevice, hfits⟩⟩
    · exact hhub.elim
    · cases Registration.faultsIn_ofLearned name learned _ hdevice
    · refine ⟨⟨learned, device, by rw [hscan], hdevice, ?_⟩, learned, hscan⟩
      obtain ⟨hname, hpulse, -⟩ := Registration.ofLearned_eq_ok_iff.1 hdevice
      rw [← hname, ← hpulse, ← Registration.validate_command, hfits]
      intro hok
      cases hok
  · left
    obtain ⟨e, he⟩ := Exchange.plain_scan.refuses hsniff
    rw [addByScan_eq, Exchange.on_bind, he] at h
    refine ⟨(congrArg Prod.snd h).symm, ?_⟩
    rintro ⟨learned, device, hscan, -⟩
    rw [he] at hscan
    cases hscan

end Client

namespace Operation

variable {s t : Session} {cause : UsageFault}

/-- Only a remote that has to be listened to has something sent before its device is
    known. -/
theorem guarded_perform {op : Operation} (hop : op.isRemote = true)
    (hscan : ∀ name, op ≠ .addByScan name) (s : Session) : Exchange.Guarded op.perform s := by
  cases op with
  | scan => exact (Exchange.plain_scan.guarded s).map _
  | addByScan name => exact absurd rfl (hscan name)
  | addCode name code pulse =>
    rw [perform, Client.addCode_eq]
    exact (Exchange.guarded_ofResult_bind_register _ s).map _
  | addPair name on off pulse =>
    rw [perform, Client.addPair_eq]
    exact (Exchange.guarded_ofResult_bind_register _ s).map _
  | _ => cases hop

/-- **Arguments are blamed before anything is done**, unless a code has been captured
    first: if an operation that learns a remote blames its arguments, it leaves the
    session as it was, except where a code has been captured whose device cannot be
    added.  There the sniff has been sent, and two replies have been read. -/
theorem perform_of_usage {op : Operation} (hop : op.isRemote = true)
    (h : op.perform.on s = (.error (.usage cause), t)) :
    (t = s ↔ ∀ name, op = .addByScan name → ¬ s.LearnsMisfit name) ∧
      (t ≠ s → t.sink.written = s.sink.written ++ Text.bytes (Command.sniff.line s.version) ∧
        t.unread = Stream.afterReplies 2 s.unread) := by
  by_cases hscan : ∃ name, op = .addByScan name
  · obtain ⟨name, rfl⟩ := hscan
    have honly : (∀ name', addByScan name = .addByScan name' → ¬ s.LearnsMisfit name') ↔
        ¬ s.LearnsMisfit name := by
      refine ⟨fun h => h name rfl, ?_⟩
      rintro h _ ⟨⟩
      exact h
    rw [honly]
    rcases Client.addByScan_of_usage (Exchange.on_map_eq_error_iff.1 h) with
      ⟨heq, hfits⟩ | ⟨hmisfit, learned, hlearned⟩
    · exact ⟨iff_of_true heq hfits, fun hne => absurd heq hne⟩
    · have htraffic := Client.traffic_of_on_scan hlearned
      refine ⟨iff_of_false ?_ (not_not_intro hmisfit), fun _ => htraffic⟩
      rintro rfl
      have hnewline : 10 ∈ Text.bytes (Command.sniff.line t.version) :=
        Text.newline_mem_bytes.2 (by simp [Command.line])
      exact List.ne_nil_of_mem hnewline (List.self_eq_append_right.1 htraffic.1)
  · have heq := (guarded_perform hop (fun name hname => hscan ⟨name, hname⟩) s).eq_of_usage h
    exact ⟨iff_of_true heq fun name hname => absurd ⟨name, hname⟩ hscan,
      fun hne => absurd heq hne⟩

/-- A name with a blank in it, at a hub that cannot listen for a code. -/
theorem perform_of_usage_wrongGeneration :
    let op := addByScan "my fan"
    let s := Session.opened .current "hub" (Text.bytes "KL/0.3 200 ok\n")
    let cause := UsageFault.wrongGeneration "SNIFF" .rf .current
    op.isRemote = true ∧ op.perform.on s = (.error (.usage cause), s) ∧
      ¬ s.LearnsMisfit "my fan" := by
  intro op s cause
  have hon : op.perform.on s = (.error (.usage cause), s) :=
    Exchange.on_map_eq_error_iff.2 (by decide +kernel)
  exact ⟨rfl, hon, (perform_of_usage rfl hon).1.1 rfl "my fan" rfl⟩

/-- At a hub that can, the name is blamed only after a remote has been listened to. -/
theorem perform_of_misfit :
    let hub := Text.bytes "KL/0.2 200 ok\nKL/0.2 200 Code: 5592371 Pulse: 189\n"
    let s := Session.opened ⟨0, 2⟩ "hub" hub
    let t := { s with unread := [], sink.written := Text.bytes "SNIFF KL/0.2\n" }
    (addByScan "my fan").perform.on s = (.error (.usage (.blank .deviceName "my fan")), t) :=
  Exchange.on_map_eq_error_iff.2 (by decide +kernel)

end Operation

end LightHub
