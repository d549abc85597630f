/-
  Protocol versions in settings.

  * `readVersion_exact`: **what is read as a version, what is refused, and that a
    version reads back** from its text, with or without the prefix.
-/
import LightHub.Proofs.Wire.Version
import LightHub.Settings.Basic

namespace LightHub.Settings

open Version (IsTag VersionText)

variable {s : String} {v : Version}

theorem readVersion_eq_ok_iff : readVersion s = .ok v ↔ VersionText s v := by
  rw [← Version.parse?_eq_some_iff, readVersion]
  cases Version.parse? s with
  | none => simp
  | some w => simp

theorem readVersion_eq_error_iff {e : Fault} :
    readVersion s = .error e ↔ (∀ v, ¬ VersionText s v) ∧ e = .settings (.invalidVersion s) := by
  simp only [← Version.parse?_eq_some_iff, readVersion]
  cases Version.parse? s with
  | none => simp [eq_comm]
  | some w => simp

/-- **Version texts.**  Exactly the texts of a version are read as it, whatever
    characters they consist of; every other text is quoted in the fault.  A version
    other than 0.0 reads back from its numbers, after the prefix in any letter case or
    without it.  So the text of a version that has been read is read as the same. -/
theorem readVersion_exact (s : String) :
    (∀ v, readVersion s = .ok v ↔ VersionText s v) ∧
    (∀ e, readVersion s = .error e ↔
      (∀ v, ¬ VersionText s v) ∧ e = .settings (.invalidVersion s)) ∧
    (Fault.settings (.invalidVersion s)).message =
      "Configuration error: invalid protocol version: " ++ Text.quoted s ∧
    (∀ v, readVersion s = .ok v → readVersion v.text = .ok v) ∧
    ∀ v tag, v ≠ ⟨0, 0⟩ → IsTag tag →
      v.text = "KL/" ++ v.numbers ∧ readVersion (tag ++ v.numbers) = .ok v := by
  have hback (v : Version) (tag : String) (hne : v ≠ ⟨0, 0⟩) (htag : IsTag tag) :
      readVersion (tag ++ v.numbers) = .ok v :=
    readVersion_eq_ok_iff.2 (Version.versionText_numbers htag hne)
  refine ⟨fun v => readVersion_eq_ok_iff, fun e => readVersion_eq_error_iff, ?_, ?_, ?_⟩
  · have hheading : SettingsFault.heading ++ "invalid protocol version: " =
        "Configuration error: invalid protocol version: " := by decide
    exact congrArg (· ++ Text.quoted s) hheading
  · intro v h
    obtain ⟨-, -, -, hne⟩ := readVersion_eq_ok_iff.1 h
    rw [Version.text_eq]
    exact hback v "KL/" hne (.inr rfl)
  · exact fun v tag hne htag => ⟨Version.text_eq v, hback v tag hne htag⟩

/-- The third byte is in the middle of a character. -/
example : readVersion "Ké0.3" = .error (.settings (.invalidVersion "Ké0.3")) := by decide +kernel

end LightHub.Settings
