/-
  What a request is refused over.

  * `FaultsIn`: the faults of a result, by the faults of its parts.
  * `Command.texts`: the texts that travel as they are given; `isWord_args_iff`: no
    other argument can fail to be a word.
  * `Command.Misfit`: a fault of the request itself; `faultsIn_validate`,
    `faultsIn_checkGeneration`: **what is wrong with a request is a fault of its own**,
    and over a word only if one of its texts is none.
  * `Command.Refusal`: a misfit that quotes what it says of the arguments.
  * `Command.vet`: the checks of a request, in the order in which they are made.
-/
import LightHub.Proofs.Wire.Message
import LightHub.Proofs.Wire.Request

namespace LightHub

open Text (IsWord)

/-! ## Results -/

section

variable {α β : Type} {P : Fault → Prop}

/-- A fault in the result has the property. -/
def FaultsIn (P : Fault → Prop) (r : Except Fault α) : Prop :=
  ∀ e, r = .error e → P e

theorem faultsIn_ok (a : α) : FaultsIn P (.ok a) := nofun

theorem faultsIn_error {e : Fault} (h : P e) : FaultsIn P (.error e : Except Fault α) := by
  rintro _ ⟨⟩
  exact h

theorem FaultsIn.mono {Q : Fault → Prop} {r : Except Fault α} (h : FaultsIn P r)
    (hPQ : ∀ e, P e → Q e) : FaultsIn Q r :=
  fun e he => hPQ e (h e he)

theorem FaultsIn.map {r : Except Fault α} (h : FaultsIn P r) (f : α → β) :
    FaultsIn P (r.map f) := by
  cases r with
  | ok a => exact faultsIn_ok _
  | error e => exact faultsIn_error (h e rfl)

theorem FaultsIn.bind {r : Except Fault α} {f : α → Except Fault β} (hr : FaultsIn P r)
    (hf : ∀ a, r = .ok a → FaultsIn P (f a)) : FaultsIn P (r >>= f) := by
  cases r with
  | ok a => exact hf a rfl
  | error e => exact faultsIn_error (hr e rfl)

end

/-- A fault over a text that is no word. -/
def UsageFault.OverWord : UsageFault → Prop
  | empty _ | blank .. => True
  | _ => False

namespace Command

variable {c : Command} {v : Version}

/-! ## Texts -/

/-- The texts on the line of a request, with what they are checked as. -/
def texts : Command → List (Argument × String)
  | toggle name | delete name | status name | addCodes name .. => [(.deviceName, name)]
  | set name command arg =>
    [(.deviceName, name), (.command, command)] ++ (arg.map (Argument.commandArgument, ·)).toList
  | transmit topic message => [(.topic, topic), (.message, message)]
  | addDevice name topic _ commands =>
    [(.deviceName, name), (.topic, topic)] ++ (commands.map (Argument.commands, ·)).toList
  | update _ name value =>
    [(.deviceName, name)] ++ (value.map (Argument.newValue, ·)).toList
  | transmitCode .. | sniff | list | quit => []

/-- Numbers and keywords are words, and the letter case of a word makes no difference. -/
theorem isWord_args_iff : (∀ w ∈ c.args, IsWord w) ↔ ∀ a ∈ c.texts, IsWord a.2 := by
  cases c with
  | set name command arg => cases arg <;> simp [args, texts]
  | addDevice name topic type commands => cases commands <;> simp [args, texts]
  | update field name value => cases value <;> simp [args, texts, RecordField.isWord_keyword]
  | _ => simp [args, texts]

/-! ## Misfits -/

/-- A fault of the request itself: over one of its texts, if it is over a word. -/
def Misfit (c : Command) (e : Fault) : Prop :=
  ∃ cause, e = .usage cause ∧
    (cause.OverWord → ∃ a ∈ c.texts, checkToken a.1 a.2 = .error (.usage cause))

/-- A misfit that says nothing of the arguments but in quotes. -/
structure Refusal (c : Command) (e : Fault) : Prop where
  misfit : c.Misfit e
  clean : e.Clean

theorem refusal_usage {cause : UsageFault} (hword : ¬ cause.OverWord)
    (hshown : ∀ t ∈ cause.shown, Text.Clean t) : c.Refusal (.usage cause) :=
  ⟨⟨cause, rfl, fun h => absurd h hword⟩, Fault.clean_iff.2 hshown⟩

theorem faultsIn_checkToken {what : Argument} {value : String} (h : (what, value) ∈ c.texts) :
    FaultsIn c.Refusal (checkToken what value) := by
  intro e he
  have hcause : ∃ cause, e = .usage cause ∧ cause.shown = [] := by
    unfold checkToken at he
    split at he
    · exact ⟨_, (Except.error.inj he).symm, rfl⟩
    · split at he
      · exact ⟨_, (Except.error.inj he).symm, rfl⟩
      · cases he
  obtain ⟨cause, rfl, hshown⟩ := hcause
  exact ⟨⟨cause, rfl, fun _ => ⟨_, h, he⟩⟩, Fault.clean_of_shown_eq_nil hshown⟩

theorem faultsIn_checkPulse (pulse : UInt32) : FaultsIn c.Refusal (checkPulse pulse) := by
  unfold checkPulse
  split
  · exact faultsIn_error (refusal_usage not_false nofun)
  · exact faultsIn_ok _

theorem faultsIn_checkOptional {needed : Bool} {what : Argument} {missing unwanted : UsageFault}
    {value : Option String} (hmissing : c.Refusal (.usage missing))
    (hunwanted : c.Refusal (.usage unwanted)) (h : ∀ w ∈ value, (what, w) ∈ c.texts) :
    FaultsIn c.Refusal (checkOptional needed what missing unwanted value) := by
  unfold checkOptional
  split
  · rename_i w
    split
    · exact faultsIn_checkToken (h w rfl)
    · exact faultsIn_error hunwanted
  · split
    · exact faultsIn_error hmissing
    · exact faultsIn_ok _

theorem clean_form (c : Command) : Text.Clean c.form := by
  unfold form
  split
  · decide
  · decide
  · decide
  · decide
  · exact c.verb.clean_keyword

/-- An argument that does not fit is refused. -/
theorem refusal_of_validate (c : Command) : FaultsIn c.Refusal c.validate := by
  cases c with
  | toggle name | delete name | status name => exact faultsIn_checkToken (by simp [texts])
  | set name command arg =>
    refine (faultsIn_checkToken (by simp [texts])).bind fun _ _ =>
      (faultsIn_checkToken (by simp [texts])).bind fun _ _ => ?_
    cases arg with
    | none => exact faultsIn_ok _
    | some arg => exact faultsIn_checkToken (by simp [texts])
  | transmit topic message =>
    exact (faultsIn_checkToken (by simp [texts])).bind fun _ _ =>
      faultsIn_checkToken (by simp [texts])
  | transmitCode code pulse => exact faultsIn_checkPulse pulse
  | addDevice name topic type commands =>
    refine (faultsIn_checkToken (by simp [texts])).bind fun _ _ =>
      (faultsIn_checkToken (by simp [texts])).bind fun _ _ =>
        faultsIn_checkOptional (refusal_usage not_false nofun) (refusal_usage not_false nofun) ?_
    rintro w rfl
    simp [texts]
  | addCodes name on off pulse =>
    exact (faultsIn_checkToken (by simp [texts])).bind fun _ _ => faultsIn_checkPulse pulse
  | update field name value =>
    refine (faultsIn_checkToken (by simp [texts])).bind fun _ _ =>
      faultsIn_checkOptional (refusal_usage not_false nofun) (refusal_usage not_false nofun) ?_
    rintro w rfl
    simp [texts]
  | sniff | list | quit => exact faultsIn_ok _

/-- **An argument that does not fit is a fault of the request.** -/
theorem faultsIn_validate (c : Command) : FaultsIn c.Misfit c.validate :=
  (refusal_of_validate c).mono fun _ => Refusal.misfit

/-- So is a form that hubs of the version would misread. -/
theorem faultsIn_checkGeneration (c : Command) (v : Version) :
    FaultsIn c.Refusal (c.checkGeneration v) := by
  unfold checkGeneration
  split
  · split
    · exact faultsIn_ok _
    · exact faultsIn_error
        (refusal_usage not_false (List.forall_mem_singleton.2 (clean_form c)))
  · exact faultsIn_ok _

/-! ## All checks -/

/-- The checks of a request in a session of version `v`, in order. -/
def vet (c : Command) (v : Version) : Except Fault Unit := do
  c.checkGeneration v
  c.validate

theorem vet_eq_ok_iff : c.vet v = .ok () ↔ c.Sendable v := by
  rw [vet, checks_eq_ok_iff]
  exact ⟨fun h => ⟨h.2, h.1⟩, fun h => ⟨h.spoken, h.fits⟩⟩

theorem faultsIn_vet (c : Command) (v : Version) : FaultsIn c.Refusal (c.vet v) :=
  (faultsIn_checkGeneration c v).bind fun _ _ => refusal_of_validate c

/-- A request that may not be sent is to blame for that itself. -/
theorem exists_of_not_sendable (h : ¬ c.Sendable v) :
    ∃ cause, c.vet v = .error (.usage cause) := by
  cases hvet : c.vet v with
  | ok _ => exact absurd (vet_eq_ok_iff.1 hvet) h
  | error e =>
    obtain ⟨cause, rfl, -⟩ := (faultsIn_vet c v e hvet).misfit
    exact ⟨cause, rfl⟩

theorem not_sendable_iff :
    ¬ c.Sendable v ↔ c.checkGeneration v ≠ .ok () ∨ c.validate ≠ .ok () := by
  rw [← vet_eq_ok_iff, vet, checks_eq_ok_iff, Decidable.not_and_iff_not_or_not]

end Command

end LightHub
