/-
  Learners beside plain requests.  A learner checks replies and words rejections
  on its own; a plain request goes by the statuses and the words that belong to
  it.

  * `Learner.run_act_steps`: two steps of a learner, as one exchange.
  * `addCode_agrees`: **a learner does what the plain requests do**, on every
    session, also on one whose writer fails.
-/
import LightHub.Proofs.Client.Remote
import LightHub.Proofs.Remote.Code
import LightHub.Proofs.Remote.Runs

namespace LightHub

namespace Learner

/-- Two steps of a learner leave the session of both in a row.  The first one that
    fails tells why they do, and a learner that has failed rests. -/
theorem run_act_steps (l : Learner) (s : Session) :
    let both := (advance l.name l.stage >>= advance l.name).on s
    ∃ first now second,
      (l.act [.step, .step]).run s =
        ([.stepped first now, .stepped second (settled both.1)], both.2) ∧
      (first.bind fun _ => second) = both.1.map fun _ => () := by
  intro both
  rcases hfirst : (advance l.name l.stage).on s with ⟨e | now, t⟩
  · have hboth : both = (.error e, t) := by
      simp only [both, Exchange.on_bind, hfirst]
    have hrest : (advance l.name .failed).on t = (.ok .failed, t) := rfl
    refine ⟨.error e, .failed, .ok (), ?_, by rw [hboth]; rfl⟩
    rw [run_act_step l _ hfirst, run_act_step _ _ hrest, hboth]
    rfl
  · rcases hsecond : (advance l.name now).on t with ⟨r, u⟩
    have hboth : both = (r, u) := by
      simp only [both, Exchange.on_bind, hfirst, hsecond]
    refine ⟨.ok (), now, r.map fun _ => (), ?_, by rw [hboth]; rfl⟩
    rw [run_act_step l _ hfirst, run_act_step _ _ hsecond, hboth]
    rfl

/-- The first two steps of a learner that has to capture a code are a sniff. -/
theorem advance_idle_bind_advance (name : String) :
    (advance name .idle >>= advance name) =
      Client.execute .sniff >>= fun _ => pure .awaitingCapture := by
  have hidle := @advance_idle_bind Stage name pure
  rwa [funext fun stage => bind_pure (advance name stage)] at hidle

end Learner

namespace Client

open Learner (settled)

/-- What adding a code does on a session is what the plain request for its device
    does. -/
theorem on_addCode {name : String} {code : Int64} {pulse : UInt32} {pair : CodePair}
    (h : derivePair code = .ok pair) (s : Session) :
    let device : Registration := ⟨name, pair.on, pair.off, pulse⟩
    (addCode name code pulse).on s =
      (((execute device.command).on s).1.map fun _ => device,
        ((execute device.command).on s).2) := by
  intro device
  have hdevice : Registration.ofLearned name ⟨code, pulse⟩ = .ok device :=
    Registration.ofLearned_eq_ok_iff.2 ⟨rfl, rfl, h⟩
  rw [addCode_eq, hdevice, Exchange.ofResult_ok_bind, register, ← map_eq_pure_bind,
    Exchange.on_map]

/-- **A learner does what the plain requests do.**  On every session, a code that is
    half of a pair is added just as the plain request for its device is made: with
    the same bytes written and read, and the same fault if there is one; and two
    steps of a learner that has to capture a code do just what a sniff does. -/
theorem addCode_agrees {name : String} {code : Int64} {pulse : UInt32} {pair : CodePair}
    (h : derivePair code = .ok pair) (s : Session) :
    let device : Registration := ⟨name, pair.on, pair.off, pulse⟩
    let plain := (execute (.addCodes name pair.on pair.off pulse)).on s
    let sniff := (execute .sniff).on s
    (addCode name code pulse).on s = (plain.1.map fun _ => device, plain.2) ∧
      ∃ first now second,
        ((Learner.start name).act [.step, .step]).run s =
          ([.stepped first now,
            .stepped second (settled (sniff.1.map fun _ => .awaitingCapture))], sniff.2) ∧
        (first.bind fun _ => second) = sniff.1.map fun _ => () := by
  intro device plain sniff
  refine ⟨on_addCode h s, ?_⟩
  have hboth : (Learner.advance name .idle >>= Learner.advance name).on s =
      (sniff.1.map fun _ => .awaitingCapture, sniff.2) := by
    rw [Learner.advance_idle_bind_advance, ← map_eq_pure_bind, Exchange.on_map]
  obtain ⟨first, now, second, hsteps, hresult⟩ := Learner.run_act_steps (.start name) s
  simp only [Learner.start, hboth] at hsteps hresult
  refine ⟨first, now, second, hsteps, ?_⟩
  rw [hresult]
  cases sniff.1 <;> rfl

/-- A writer that takes only twelve bytes cuts both short, at the same place. -/
theorem addCode_agrees_cut :
    let s : Session := { version := ⟨0, 2⟩, sink := { room := some 12 } }
    let device : Registration := ⟨"fan", 5592371, 5592380, 189⟩
    let plain := (execute (.addCodes "fan" 5592371 5592380 189)).on s
    let sniff := (execute .sniff).on s
    derivePair 5592380 = .ok ⟨5592371, 5592380⟩ ∧
      plain.2.sink = { written := Text.bytes "ADD fan 5592", room := some 0 } ∧
      (addCode "fan" 5592380 189).on s = (plain.1.map fun _ => device, plain.2) ∧
      ∃ first now second,
        ((Learner.start "fan").act [.step, .step]).run s =
          ([.stepped first now,
            .stepped second (settled (sniff.1.map fun _ => .awaitingCapture))], sniff.2) ∧
        (first.bind fun _ => second) = sniff.1.map fun _ => () := by
  intro s device plain sniff
  have hpair : derivePair 5592380 = .ok ⟨5592371, 5592380⟩ := rfl
  exact ⟨hpair, by decide +kernel, addCode_agrees hpair s⟩

end Client

end LightHub
