/-
  When a run blames its arguments.

  * `Invocation.Blames`: the faults that tell that the arguments are wrong.
  * `run_of_blames`: **a run that blames its arguments has not connected**, unless
    it has learned a code first.
-/
import LightHub.Proofs.Client.Refusal
import LightHub.Proofs.CommandLine.Plan
import LightHub.Proofs.CommandLine.Run

namespace LightHub

open Text (IsWord)

/-! ## Faults of the arguments -/

/-- A radio code is among the arguments. -/
def Task.hasCode : Task → Bool
  | addCode .. | addPair .. => true
  | _ => false

namespace Invocation

/-- The fault tells that the arguments are wrong. -/
def Blames (inv : Invocation) : Fault → Prop
  | .usage _ => True
  | .invalidCode _ => ∃ t, inv.action = .task t ∧ t.hasCode
  | _ => False

theorem not_blames_of_ofHub {inv : Invocation} {e : Fault} (h : e.OfHub) : ¬ inv.Blames e := by
  cases e with
  | transport | malformed | rejected => exact id
  | usage | invalidCode | settings => exact h.elim

/-- A hub is connected to and lets a code be captured, but no device can be added
    by it: its name is no word, or its pulse has no length. -/
def LearnsMisfit (inv : Invocation) (m : Machine) : Prop :=
  ∃ s name hub learned device,
    Settings.load (inv.path m.configured m.home) m.shelf >>= inv.step =
        .ok (.connect s (.addScan name)) ∧
      m.dial s.hub = some hub ∧
      (Client.scan.on { version := s.protocol, unread := hub }).1 = .ok learned ∧
      Registration.ofLearned name learned = .ok device ∧
      ¬ (IsWord name ∧ learned.pulse ≠ 0)

end Invocation

/-! ## Runs -/

/-- What cannot be saved is the fault of the settings, or of their file. -/
theorem Settings.faultsIn_save (s : Settings) (path : String) (shelf : Shelf) :
    FaultsIn (fun e => ∃ cause, e = .settings cause) (s.save path shelf).1 := by
  have hvalidate : FaultsIn (fun e => ∃ cause, e = .settings cause) s.validate := by
    unfold validate
    split
    · exact faultsIn_error ⟨_, rfl⟩
    · exact faultsIn_ok _
  have hfolders : FaultsIn (fun e => ∃ cause, e = .settings cause)
      (Settings.makeFolders path shelf).1 := by
    unfold Settings.makeFolders
    split
    · exact faultsIn_ok _
    · split
      · exact faultsIn_ok _
      · exact faultsIn_error ⟨_, rfl⟩
  unfold save
  split
  next e he => exact faultsIn_error (hvalidate e he)
  next =>
    split
    next e shelf' he => exact faultsIn_error (hfolders e (congrArg Prod.fst he))
    next =>
      split
      · exact faultsIn_ok _
      · exact faultsIn_error ⟨_, rfl⟩

/-- A conversation blames the arguments only over a device that cannot be added. -/
theorem Invocation.learnsMisfit_of_converse {inv : Invocation} {m : Machine} {s : Settings}
    {plan : Plan} {hub : List UInt8} {e : Fault} (hblames : inv.Blames e)
    (hstep : Settings.load (inv.path m.configured m.home) m.shelf >>= inv.step =
      .ok (.connect s plan))
    (hdial : m.dial s.hub = some hub)
    (hfault : (plan.converse { version := s.protocol, unread := hub }).fault = some e) :
    inv.LearnsMisfit m := by
  obtain ⟨s₀, -, hconnect⟩ := bind_eq_ok_iff.1 hstep
  obtain ⟨t, htask, hplan⟩ := ofTask_of_step hconnect
  have hs : ({ version := s.protocol, unread := hub } : Session).sink.Steady := ⟨rfl, rfl⟩
  have hmade := Plan.made_ofTask hplan
  rw [Plan.fault_converse hs rfl] at hfault
  by_cases hscan : ∃ name, plan = .addScan name
  · obtain ⟨name, rfl⟩ := hscan
    obtain ⟨rfl, hsniff⟩ : t = .addScan name ∧ Command.sniff.Sendable s.protocol := by
      cases hmade with
      | addScan hsniff => exact ⟨rfl, hsniff⟩
    have hlearn : ((Client.addByScan name).on { version := s.protocol, unread := hub }).1 =
        .error e := by
      rw [Plan.exchange, Exchange.on_map] at hfault
      exact map_eq_error_iff.1 hfault
    rcases Client.fault_addByScan hsniff (Prod.ext hlearn rfl) with
      hhub | ⟨learned, hscan, hdevice | ⟨device, hdevice, hfits⟩⟩
    · exact absurd hblames (not_blames_of_ofHub hhub)
    · obtain rfl := Registration.faultsIn_ofLearned name learned e hdevice
      obtain ⟨t, ht, hcode⟩ := hblames
      obtain rfl : .addScan name = t := Action.task.inj (htask.symm.trans ht)
      cases hcode
    · have hlearned := congrArg Prod.fst hscan
      refine ⟨s, name, hub, learned, device, hstep, hdial, hlearned, hdevice, ?_⟩
      obtain ⟨hname, hpulse, -⟩ := Registration.ofLearned_eq_ok_iff.1 hdevice
      rw [← hname, ← hpulse, ← Registration.validate_command, hfits]
      intro hok
      cases hok
  · have hexchange := Plan.failsIn_exchange hmade fun name h => hscan ⟨name, h⟩
    exact absurd hblames (not_blames_of_ofHub ((hexchange _ rfl).2 e hfault))

/-- **A run that blames its arguments has not connected**, unless it has learned a
    code whose device cannot be added.  The fault is found when the settings are
    edited, or when the plan is made. -/
theorem run_of_blames {args : List String} {m : Machine} {inv : Invocation} {e : Fault}
    (hparse : Invocation.parse args = .ok inv) (hblames : inv.Blames e)
    (hrun : (run args m).verdict = .failure e) :
    ((run args m).received = none ↔ ¬ inv.LearnsMisfit m) ∧
      ((run args m).received = none →
        Settings.load (inv.path m.configured m.home) m.shelf >>= inv.step = .error e) := by
  rcases hstep : Settings.load (inv.path m.configured m.home) m.shelf >>= inv.step with f | step
  · rw [run_of_error hparse hstep] at hrun ⊢
    obtain rfl : f = e := Verdict.failure.inj hrun
    refine ⟨⟨fun _ => ?_, fun _ => rfl⟩, fun _ => rfl⟩
    rintro ⟨s, name, hub, learned, device, hconnect, -⟩
    rw [hstep] at hconnect
    cases hconnect
  cases step with
  | save s line =>
    have hsave := s.faultsIn_save (inv.path m.configured m.home) m.shelf
    rcases hsaved : s.save (inv.path m.configured m.home) m.shelf with ⟨f | ⟨⟩, shelf⟩
    · rw [run_of_save_error hparse hstep hsaved] at hrun
      obtain rfl : f = e := Verdict.failure.inj hrun
      rw [hsaved] at hsave
      obtain ⟨cause, rfl⟩ := hsave f rfl
      exact hblames.elim
    · rw [run_of_save hparse hstep hsaved] at hrun
      cases hrun
  | connect s plan =>
    cases hdial : m.dial s.hub with
    | none =>
      rw [run_of_refused hparse hstep hdial] at hrun
      obtain rfl : .transport .socket = e := Verdict.failure.inj hrun
      exact hblames.elim
    | some hub =>
      rw [run_of_connect hparse hstep hdial] at hrun ⊢
      have hfault := Conversation.verdict_eq_failure_iff.1 hrun
      have hmisfit := Invocation.learnsMisfit_of_converse hblames hstep hdial hfault
      exact ⟨⟨nofun, fun h => absurd hmisfit h⟩, nofun⟩

/-- A machine at a hub for radio remotes, on which a button has been pressed. -/
def Machine.listening : Machine where
  configured := some "hub.json"
  home := none
  shelf.top := .folder [("hub.json", .file (Text.bytes "\x7b\"protocol\": \"KL/0.2\"\x7d"))]
  dial := fun _ => some (Text.bytes "KL/0.2 200 ok\nKL/0.2 200 Code: 5592371 Pulse: 189\n")

/-- A code on the command line that is no half of a pair. -/
theorem run_of_invalidCode :
    let args := ["add", "code", "lamp", "7", "189"]
    let inv : Invocation := { action := .task (.addCode "lamp" 7 189) }
    let m := Machine.listening
    Invocation.parse args = .ok inv ∧ inv.Blames (.invalidCode 7) ∧
      (run args m).verdict = .failure (.invalidCode 7) ∧ (run args m).received = none ∧
        ¬ inv.LearnsMisfit m ∧
          Settings.load (inv.path m.configured m.home) m.shelf >>= inv.step =
            .error (.invalidCode 7) := by
  intro args inv m
  have hparse : Invocation.parse args = .ok inv := rfl
  have hblames : inv.Blames (.invalidCode 7) := ⟨_, rfl, rfl⟩
  have hrun : (run args m).verdict = .failure (.invalidCode 7) := by decide +kernel
  have hnone : (run args m).received = none := by decide +kernel
  obtain ⟨hiff, hstep⟩ := run_of_blames hparse hblames hrun
  exact ⟨hparse, hblames, hrun, hnone, hiff.1 hnone, hstep hnone⟩

/-- A name with a blank in it is found only after a remote has been listened to. -/
theorem run_of_misfit :
    let args := ["add", "scan", "my fan"]
    let m := Machine.listening
    Invocation.parse args = .ok { action := .task (.addScan "my fan") } ∧
      (run args m).verdict = .failure (.usage (.blank .deviceName "my fan")) ∧
        (run args m).received = some (Text.bytes "SNIFF KL/0.2\nQ\n") :=
  ⟨rfl, by decide +kernel, by decide +kernel⟩

end LightHub
