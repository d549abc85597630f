/-
  Messages, and the texts that they show as they are.

  * `Fault.shown`: the texts of a fault that its message does not quote.
  * `Fault.Clean`: no control character stands in the message.
  * `Fault.clean_iff`: **a message is clean exactly if the texts are that it shows as they
    are.**  Keywords, numbers and descriptions are clean, and quoted texts always are.
-/
import LightHub.Proofs.Text.Control

namespace LightHub

open Text (Clean clean_iff_true)

/-! ## Texts as they are -/

def UsageFault.shown : UsageFault → List String
  | wrongGeneration form .. => [form]
  | learningFailed name | pastCapture name => [name]
  | _ => []

def MalformedReply.shown : MalformedReply → List String
  | tokensMissing layout .. | labelMismatch layout .. | noField layout _ | notNumber layout .. =>
    [layout]
  | _ => []

def SettingsFault.shown : SettingsFault → List String
  | unreadable path | unparsable path _ | uncreatable path | unwritable path => [path]
  | invalidVersion _ | zeroPort => []

/-- The texts of a fault that its message shows as they are. -/
def Fault.shown : Fault → List String
  | usage cause => cause.shown
  | malformed cause => cause.shown
  | rejected _ _ reason => [reason]
  | settings cause => cause.shown
  | transport _ | invalidCode _ => []

/-! ## Fixed texts -/

@[simp]
theorem Argument.clean_label (argument : Argument) : Clean argument.label := by
  cases argument <;> decide

@[simp]
theorem Quantity.clean_label (quantity : Quantity) : Clean quantity.label := by
  cases quantity <;> decide

@[simp]
theorem DeviceType.clean_name (type : DeviceType) : Clean type.name := by
  cases type <;> decide

@[simp]
theorem RecordField.clean_keyword (field : RecordField) : Clean field.keyword := by
  cases field <;> decide

@[simp]
theorem Verb.clean_keyword (verb : Verb) : Clean verb.keyword := by
  cases verb <;> decide

@[simp]
theorem Generation.clean_name (generation : Generation) : Clean generation.name := by
  cases generation <;> decide

@[simp]
theorem Version.clean_text (v : Version) : Clean v.text := by
  simp (disch := decide) [clean_iff_true, text]

@[simp]
theorem Status.clean_description (status : Status) : Clean status.description := by
  have hknown : ∀ e ∈ known, Clean e.description := by decide
  unfold description
  cases hentry : status.entry? with
  | none => decide
  | some e => exact hknown e (entry?_eq_some_iff.1 hentry).1

@[simp]
theorem Status.clean_text (status : Status) : Clean status.text := by
  simp (disch := decide) [clean_iff_true, text]

/-! ## Messages -/

theorem UsageFault.clean_message_iff {cause : UsageFault} :
    Clean cause.message ↔ ∀ t ∈ cause.shown, Clean t := by
  cases cause with
  | unknownDeviceType cause =>
    cases cause <;> dsimp only [message, shown] <;> simp (disch := decide) [clean_iff_true]
  | _ => dsimp only [message, shown]; simp (disch := decide) [clean_iff_true]

theorem MalformedReply.clean_message_iff {cause : MalformedReply} :
    Clean cause.message ↔ ∀ t ∈ cause.shown, Clean t := by
  cases cause <;> dsimp only [message, shown] <;> simp (disch := decide) [clean_iff_true]

theorem SettingsFault.clean_message_iff {cause : SettingsFault} :
    Clean cause.message ↔ ∀ t ∈ cause.shown, Clean t := by
  cases cause with
  | unparsable path version =>
    cases version <;> dsimp only [message, shown, heading, versionMessage] <;>
      simp (disch := decide) [clean_iff_true]
  | _ =>
    dsimp only [message, shown, heading, versionMessage]
    simp (disch := decide) [clean_iff_true]

/-- No control character stands in the message. -/
def Fault.Clean (e : Fault) : Prop :=
  Text.Clean e.message

/-- **A message is clean exactly if the texts are that it shows as they are.** -/
theorem Fault.clean_iff {e : Fault} : e.Clean ↔ ∀ t ∈ e.shown, Text.Clean t := by
  unfold Fault.Clean
  cases e with
  | transport cause => cases cause <;> decide
  | settings cause => exact cause.clean_message_iff
  | usage cause | malformed cause =>
    dsimp only [message, shown]
    rw [← cause.clean_message_iff]
    simp (disch := decide) [clean_iff_true]
  | rejected verb status reason | invalidCode code =>
    dsimp only [message, shown]
    simp (disch := decide) [clean_iff_true]

/-- What quotes all of its texts is clean. -/
theorem Fault.clean_of_shown_eq_nil {e : Fault} (h : e.shown = []) : e.Clean := by
  rw [clean_iff, h]
  exact nofun

/-! ## Malformed replies -/

/-- A malformed reply, with just these texts shown as they are. -/
def Fault.Malformed (texts : List String) (e : Fault) : Prop :=
  ∃ cause, e = .malformed cause ∧ cause.shown = texts

theorem Fault.Malformed.clean {texts : List String} {e : Fault} (h : e.Malformed texts)
    (htexts : ∀ t ∈ texts, Text.Clean t) : e.Clean := by
  obtain ⟨cause, rfl, rfl⟩ := h
  exact clean_iff.2 htexts

end LightHub
