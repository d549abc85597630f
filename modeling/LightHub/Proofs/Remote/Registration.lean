/-
  Devices of remotes, by their codes and by the requests that add them.

  * `Registration.ofLine?`: the device that a request line is about;
    `ofLine?_line_command`: the numbers on the line are those of the device.
  * `ofCodes_agrees`: **a device can be made from both of its codes exactly if it can be
    made from either one of them**, and it is made again from its request line.
-/
import LightHub.Proofs.Remote.Code
import LightHub.Proofs.Wire.Request

namespace LightHub.Registration

open Text (IsWord)

variable {name : String} {on off : Int64} {pulse : UInt32} {learned : Learned}
  {device : Registration} {e : Fault}

/-! ## Codes -/

/-- A device that is given in full is the one of its two codes. -/
theorem eq_of_ofCodes (h : ofCodes name on off pulse = .ok device) :
    device = ⟨name, on, off, pulse⟩ :=
  (ofCodes_eq_ok_iff.1 h).2.2

/-- They are the two halves of a pair. -/
theorem derivePair_of_ofCodes {code : Int64} (h : ofCodes name on off pulse = .ok device)
    (hcode : code = on ∨ code = off) : derivePair code = .ok ⟨on, off⟩ := by
  obtain ⟨htag, hoff, -⟩ := ofCodes_eq_ok_iff.1 h
  exact derivePair_eq_ok_iff.2 ⟨htag, hoff, hcode⟩

/-- The device of a learned code is the device of its on code. -/
theorem ofLearned_on (h : ofLearned name learned = .ok device) :
    ofLearned device.name ⟨device.on, device.pulse⟩ = .ok device := by
  obtain ⟨-, -, hpair⟩ := ofLearned_eq_ok_iff.1 h
  obtain ⟨htag, hoff, -⟩ := derivePair_eq_ok_iff.1 hpair
  exact ofLearned_of_half htag hoff (Or.inl rfl)

/-- It can be given in full as well. -/
theorem ofCodes_of_ofLearned (h : ofLearned name learned = .ok device) :
    ofCodes device.name device.on device.off device.pulse = .ok device := by
  obtain ⟨-, -, hpair⟩ := ofLearned_eq_ok_iff.1 h
  obtain ⟨htag, hoff, -⟩ := derivePair_eq_ok_iff.1 hpair
  exact ofCodes_of_halves htag hoff

theorem ofCodes_eq_ok_iff_ofLearned :
    ofCodes name on off pulse = .ok device ↔
      ofLearned name ⟨on, pulse⟩ = .ok device ∧ ofLearned name ⟨off, pulse⟩ = .ok device ∧
        device.on = on ∧ device.off = off := by
  constructor
  · intro h
    have hon := derivePair_of_ofCodes h (Or.inl rfl)
    have hoff := derivePair_of_ofCodes h (Or.inr rfl)
    obtain rfl := eq_of_ofCodes h
    exact ⟨ofLearned_eq_ok_iff.2 ⟨rfl, rfl, hon⟩, ofLearned_eq_ok_iff.2 ⟨rfl, rfl, hoff⟩, rfl, rfl⟩
  · rintro ⟨hlearned, -, rfl, rfl⟩
    obtain ⟨rfl, rfl, -⟩ := ofLearned_eq_ok_iff.1 hlearned
    exact ofCodes_of_ofLearned hlearned

/-- The on code is blamed if it is tagged as none, and the off code otherwise. -/
theorem eq_of_ofCodes_error (h : ofCodes name on off pulse = .error e) :
    e = .invalidCode (if on.toInt % 16 = 3 then off else on) := by
  rw [ofCodes_eq] at h
  split_ifs at h with hon hoff
  · rw [if_pos hon]
    exact (Except.error.inj h).symm
  · rw [if_neg hon]
    exact (Except.error.inj h).symm

/-! ## Request lines -/

/-- The device that a request line is about, made from the numbers on it. -/
def ofLine? (line : String) : Option (Except Fault Registration) :=
  match Text.words line with
  | [keyword, name, on, off, pulse, _] =>
    if keyword = Verb.add.keyword then do
      let on ← Text.int64? on.toList
      let off ← Text.int64? off.toList
      let pulse ← Text.uint32? pulse.toList
      return ofCodes name on off pulse
    else none
  | _ => none

/-- No number loses anything on a line. -/
theorem ofLine?_line_command (h : IsWord device.name) (v : Version) :
    ofLine? (device.command.line v) =
      some (ofCodes device.name device.on device.off device.pulse) := by
  have hargs : ∀ w ∈ device.command.args, IsWord w := by simp [command, Command.args, h]
  have hquit : device.command ≠ .quit := Command.noConfusion
  have hwords : Text.words (device.command.line v) =
      [Verb.add.keyword, device.name, toString device.on.toInt, toString device.off.toInt,
        toString device.pulse.toNat, v.text] :=
    Command.words_line_of_isWord v hargs hquit
  unfold ofLine?
  rw [hwords]
  refine (if_pos rfl).trans ?_
  rw [Text.int64?_toString, Text.int64?_toString, Text.uint32?_toString]
  rfl

/-! ## Agreement -/

/-- **A device can be made from both of its codes exactly if it can be made from either
    one of them.**  If it cannot, the code at fault is named.  Its request has the name,
    the codes and the pulse in order, and the device is made again from the numbers on
    that line. -/
theorem ofCodes_agrees (name : String) (on off : Int64) (pulse : UInt32) :
    (∀ device, ofCodes name on off pulse = .ok device ↔
        ofLearned name ⟨on, pulse⟩ = .ok device ∧ ofLearned name ⟨off, pulse⟩ = .ok device ∧
          device.on = on ∧ device.off = off) ∧
      (∀ e, ofCodes name on off pulse = .error e →
        e = .invalidCode (if on.toInt % 16 = 3 then off else on)) ∧
      ∀ device : Registration,
        (ofCodes name on off pulse = .ok device ∨
          ∃ code, ofLearned name ⟨code, pulse⟩ = .ok device) → ∀ v : Version,
        device.command.line v = "ADD" ++ Command.spaced [name, toString device.on.toInt,
            toString device.off.toInt, toString pulse.toNat, v.text] ++ "\n" ∧
          (IsWord name → ofLine? (device.command.line v) = some (.ok device)) := by
  refine ⟨fun device => ofCodes_eq_ok_iff_ofLearned, fun e => eq_of_ofCodes_error,
    fun device hdevice v => ?_⟩
  obtain ⟨code, hlearned⟩ : ∃ code, ofLearned name ⟨code, pulse⟩ = .ok device := by
    rcases hdevice with h | h
    · exact ⟨on, (ofCodes_eq_ok_iff_ofLearned.1 h).1⟩
    · exact h
  have hagain := ofCodes_of_ofLearned hlearned
  obtain ⟨rfl, rfl, -⟩ := ofLearned_eq_ok_iff.1 hlearned
  refine ⟨rfl, fun hname => ?_⟩
  rw [ofLine?_line_command hname v, hagain]

end LightHub.Registration
