/-
  Pairs of radio codes, as integers.

  * `classify_eq`: the low four bits of a code are its remainder modulo 16.
  * `derivePair_eq_ok_iff`: **a pair is nine apart and holds its code.**
  * `CodePair.IsButton`, `CodePair.Has`: the pairs that remotes send, and their codes.
  * `derivePair_partitions`: **every code with a tag belongs to one button**, and the
    others to none.
  * `Registration.ofLearned_eq_ok_iff`: the device of a learned code;
    `ofLearned_of_half`, `ofCodes_of_halves`: it can be told from either code of the
    button, and from both.
-/
import Mathlib.Tactic.SplitIfs
import LightHub.Remote.Code

namespace LightHub

/-! ## Tags -/

theorem toNat_toBitVec_and_fifteen (code : Int64) :
    (code &&& 15).toBitVec.toNat = code.toBitVec.toNat % 16 := by
  rw [Int64.toBitVec_and, BitVec.toNat_and]
  exact Nat.and_two_pow_sub_one_eq_mod _ 4

/-- Sixteen divides the size of a code, so the sign makes no difference. -/
theorem toInt_emod_sixteen (code : Int64) :
    code.toInt % 16 = (code.toBitVec.toNat % 16 : Nat) := by
  rw [Int64.toInt, BitVec.toInt_eq_toNat_cond]
  split <;> omega

theorem and_fifteen_eq_iff {code tag : Int64} :
    code &&& 15 = tag ↔ code.toInt % 16 = tag.toBitVec.toNat := by
  rw [← Int64.toBitVec_inj, ← BitVec.toNat_inj, toNat_toBitVec_and_fifteen, toInt_emod_sixteen]
  exact Int.ofNat_inj.symm

theorem classify_eq (code : Int64) :
    classify code = if code.toInt % 16 = 3 then some .on
      else if code.toInt % 16 = 12 then some .off else none := by
  have hon : code &&& 15 = 3 ↔ code.toInt % 16 = 3 := and_fifteen_eq_iff
  have hoff : code &&& 15 = 12 ↔ code.toInt % 16 = 12 := and_fifteen_eq_iff
  simp only [classify, hon, hoff]

/-! ## Pairs -/

theorem shiftCode?_eq_some_iff {code moved : Int64} {distance : Int} :
    shiftCode? code distance = some moved ↔ moved.toInt = code.toInt + distance := by
  have hmin := moved.minValue_le_toInt
  have hmax := moved.toInt_le
  simp only [shiftCode?]
  split_ifs with h
  · have hlt := Int.lt_of_le_of_lt h.2 Int64.maxValue.toInt_lt
    rw [Option.some.injEq, ← Int64.toInt_inj, Int64.toInt_ofInt_of_le h.1 hlt]
    exact eq_comm
  · constructor
    · exact nofun
    · intro heq
      exact absurd ⟨heq ▸ hmin, heq ▸ hmax⟩ h

theorem derivePair_of_on {code : Int64} {pair : CodePair} (h : code.toInt % 16 = 3) :
    derivePair code = .ok pair ↔ pair.on = code ∧ pair.off.toInt = code.toInt + 9 := by
  obtain ⟨on, off⟩ := pair
  rw [derivePair, classify_eq, if_pos h, ← codeOffset, ← shiftCode?_eq_some_iff]
  cases shiftCode? code codeOffset with
  | none => simp
  | some moved => simp [eq_comm]

theorem derivePair_of_off {code : Int64} {pair : CodePair} (h : code.toInt % 16 = 12) :
    derivePair code = .ok pair ↔ pair.off = code ∧ pair.on.toInt = code.toInt - 9 := by
  obtain ⟨on, off⟩ := pair
  rw [derivePair, classify_eq, if_neg (by omega), if_pos h, Int.sub_eq_add_neg, ← codeOffset,
    ← shiftCode?_eq_some_iff]
  cases shiftCode? code (-codeOffset) with
  | none => simp
  | some moved => simp [eq_comm, and_comm]

theorem derivePair_of_neither {code : Int64} (hon : code.toInt % 16 ≠ 3)
    (hoff : code.toInt % 16 ≠ 12) : derivePair code = .error (.invalidCode code) := by
  rw [derivePair, classify_eq, if_neg hon, if_neg hoff]

/-- **A pair is nine apart and holds its code.**  The on code has the tag 3, so
    the off code has the tag 12. -/
theorem derivePair_eq_ok_iff {code : Int64} {pair : CodePair} :
    derivePair code = .ok pair ↔
      pair.on.toInt % 16 = 3 ∧ pair.off.toInt = pair.on.toInt + 9 ∧
        (code = pair.on ∨ code = pair.off) := by
  by_cases hon : code.toInt % 16 = 3
  · rw [derivePair_of_on hon]
    constructor
    · rintro ⟨rfl, hoff⟩
      exact ⟨hon, hoff, Or.inl rfl⟩
    · rintro ⟨h, hoff, rfl | rfl⟩
      · exact ⟨rfl, hoff⟩
      · omega
  by_cases hoff : code.toInt % 16 = 12
  · rw [derivePair_of_off hoff]
    constructor
    · rintro ⟨rfl, h⟩
      exact ⟨by omega, by omega, Or.inr rfl⟩
    · rintro ⟨hon', h, rfl | rfl⟩
      · exact absurd hon' hon
      · exact ⟨rfl, by omega⟩
  · rw [derivePair_of_neither hon hoff]
    constructor
    · exact nofun
    · rintro ⟨_, _, rfl | rfl⟩ <;> omega

/-- The codes next to an on code have room for its off code. -/
theorem toInt_add_nine {on : Int64} (h : on.toInt % 16 = 3) : (on + 9).toInt = on.toInt + 9 := by
  have hmin : -2 ^ 63 ≤ on.toInt := on.le_toInt
  have hmax : on.toInt < 2 ^ 63 := on.toInt_lt
  have hnine : (9 : Int64).toInt = 9 := rfl
  rw [Int64.toInt_add, hnine]
  exact Int.bmod_eq_of_le (by omega) (by omega)

/-- The codes next to an off code have room for its on code. -/
theorem toInt_sub_nine {off : Int64} (h : off.toInt % 16 = 12) :
    (off - 9).toInt = off.toInt - 9 := by
  have hmin : -2 ^ 63 ≤ off.toInt := off.le_toInt
  have hmax : off.toInt < 2 ^ 63 := off.toInt_lt
  have hnine : (9 : Int64).toInt = 9 := rfl
  rw [Int64.toInt_sub, hnine]
  exact Int.bmod_eq_of_le (by omega) (by omega)

/-! ## Buttons -/

namespace CodePair

/-- The two codes of one button: the on code is tagged as one, and the off code lies
    nine above it. -/
structure IsButton (pair : CodePair) : Prop where
  on_tag : pair.on.toInt % 16 = 3
  off_eq : pair.off.toInt = pair.on.toInt + 9

/-- A code is one half of the pair. -/
def Has (pair : CodePair) (code : Int64) : Prop :=
  code = pair.on ∨ code = pair.off

variable {pair : CodePair} {code : Int64}

/-- So the off code is tagged as one, too. -/
theorem IsButton.off_tag (h : pair.IsButton) : pair.off.toInt % 16 = 12 := by
  have hon := h.on_tag
  have hoff := h.off_eq
  omega

theorem IsButton.classify_on (h : pair.IsButton) : classify pair.on = some .on := by
  rw [classify_eq, if_pos h.on_tag]

theorem IsButton.classify_off (h : pair.IsButton) : classify pair.off = some .off := by
  have hoff := h.off_tag
  rw [classify_eq, if_neg (by omega), if_pos hoff]

end CodePair

theorem derivePair_eq_ok_iff_isButton {code : Int64} {pair : CodePair} :
    derivePair code = .ok pair ↔ pair.IsButton ∧ pair.Has code := by
  rw [derivePair_eq_ok_iff]
  exact ⟨fun h => ⟨⟨h.1, h.2.1⟩, h.2.2⟩, fun h => ⟨h.1.on_tag, h.1.off_eq, h.2⟩⟩

/-- Every tagged code has a button: its other half is a code as well. -/
theorem exists_isButton_iff {code : Int64} :
    (∃ pair : CodePair, pair.IsButton ∧ pair.Has code) ↔
      code.toInt % 16 = 3 ∨ code.toInt % 16 = 12 := by
  constructor
  · rintro ⟨pair, hpair, rfl | rfl⟩
    · exact Or.inl hpair.on_tag
    · exact Or.inr hpair.off_tag
  · rintro (h | h)
    · exact ⟨⟨code, code + 9⟩, ⟨h, toInt_add_nine h⟩, Or.inl rfl⟩
    · have hon := toInt_sub_nine h
      have htag : (code - 9).toInt % 16 = 3 := by omega
      have hoff : code.toInt = (code - 9).toInt + 9 := by omega
      exact ⟨⟨code - 9, code⟩, ⟨htag, hoff⟩, Or.inr rfl⟩

theorem isOk_derivePair_iff {code : Int64} :
    (derivePair code).isOk ↔ code.toInt % 16 = 3 ∨ code.toInt % 16 = 12 := by
  rw [← exists_isButton_iff]
  simp only [← derivePair_eq_ok_iff_isButton]
  cases derivePair code with
  | error e => exact ⟨nofun, nofun⟩
  | ok pair => exact ⟨fun _ => ⟨pair, rfl⟩, fun _ => rfl⟩

/-- Only the code itself is blamed if it has no button. -/
theorem eq_of_derivePair_error {code : Int64} {e : Fault} (h : derivePair code = .error e) :
    e = .invalidCode code := by
  have hnone : ¬ (code.toInt % 16 = 3 ∨ code.toInt % 16 = 12) := by
    rw [← isOk_derivePair_iff, h]
    exact Bool.false_ne_true
  rw [not_or] at hnone
  rw [derivePair_of_neither hnone.1 hnone.2] at h
  exact (Except.error.inj h).symm

/-- The other half of a tagged code lies among the codes. -/
theorem isSome_shiftCode?_of_classify {code : Int64} :
    (classify code = some .on → (shiftCode? code codeOffset).isSome) ∧
      (classify code = some .off → (shiftCode? code (-codeOffset)).isSome) := by
  have hshift {distance : Int} {moved : Int64} (h : moved.toInt = code.toInt + distance) :
      (shiftCode? code distance).isSome :=
    Option.isSome_of_eq_some (shiftCode?_eq_some_iff.2 h)
  rw [classify_eq]
  split_ifs with hon hoff
  · exact ⟨fun _ => hshift (toInt_add_nine hon), nofun⟩
  · exact ⟨nofun, fun _ => hshift (toInt_sub_nine hoff)⟩
  · exact ⟨nofun, nofun⟩

/-- No code belongs to two buttons. -/
theorem CodePair.IsButton.unique {p q : CodePair} {code : Int64} (hp : p.IsButton)
    (hq : q.IsButton) (hpcode : p.Has code) (hqcode : q.Has code) : p = q := by
  have hpair := derivePair_eq_ok_iff_isButton.2 ⟨hp, hpcode⟩
  rw [derivePair_eq_ok_iff_isButton.2 ⟨hq, hqcode⟩] at hpair
  exact (Except.ok.inj hpair).symm

/-- **Every code with a tag belongs to one button**, and the others to none.  Its other
    half is always a code, so the bounds of the codes are never met; the two halves
    have the same pair, and two codes have one pair exactly if they are the halves of
    one button. -/
theorem derivePair_partitions (code : Int64) :
    ((derivePair code).isOk ↔ code.toInt % 16 = 3 ∨ code.toInt % 16 = 12) ∧
      (∀ e, derivePair code = .error e → e = .invalidCode code) ∧
      ((classify code = some .on → (shiftCode? code codeOffset).isSome) ∧
        (classify code = some .off → (shiftCode? code (-codeOffset)).isSome)) ∧
      (∀ pair, derivePair code = .ok pair →
        pair.off.toInt = pair.on.toInt + 9 ∧ classify pair.on = some .on ∧
          classify pair.off = some .off ∧ pair.Has code ∧
          derivePair pair.on = .ok pair ∧ derivePair pair.off = .ok pair) ∧
      (∀ other, (∃ pair, derivePair code = .ok pair ∧ derivePair other = .ok pair) ↔
        ∃ pair : CodePair, pair.IsButton ∧ pair.Has code ∧ pair.Has other) ∧
      ∀ p q : CodePair, p.IsButton → q.IsButton → p.Has code → q.Has code → p = q := by
  refine ⟨isOk_derivePair_iff, fun e => eq_of_derivePair_error, isSome_shiftCode?_of_classify,
    fun pair h => ?_, fun other => ?_, fun p q => CodePair.IsButton.unique⟩
  · obtain ⟨hpair, hcode⟩ := derivePair_eq_ok_iff_isButton.1 h
    have hon : derivePair pair.on = .ok pair :=
      derivePair_eq_ok_iff_isButton.2 ⟨hpair, Or.inl rfl⟩
    have hoff : derivePair pair.off = .ok pair :=
      derivePair_eq_ok_iff_isButton.2 ⟨hpair, Or.inr rfl⟩
    exact ⟨hpair.off_eq, hpair.classify_on, hpair.classify_off, hcode, hon, hoff⟩
  · refine exists_congr fun pair => ?_
    rw [derivePair_eq_ok_iff_isButton, derivePair_eq_ok_iff_isButton]
    exact ⟨fun h => ⟨h.1.1, h.1.2, h.2.2⟩, fun h => ⟨⟨h.1, h.2.1⟩, h.1, h.2.2⟩⟩

/-- The lowest code that is half of a pair, and the highest one. -/
example :
    derivePair (-9223372036854775805) = .ok ⟨-9223372036854775805, -9223372036854775796⟩ ∧
      derivePair 9223372036854775804 = .ok ⟨9223372036854775795, 9223372036854775804⟩ :=
  ⟨rfl, rfl⟩

/-! ## Devices -/

theorem Registration.ofLearned_eq_ok_iff {name : String} {learned : Learned}
    {device : Registration} :
    ofLearned name learned = .ok device ↔ device.name = name ∧ device.pulse = learned.pulse ∧
      derivePair learned.code = .ok ⟨device.on, device.off⟩ := by
  obtain ⟨name', on, off, pulse⟩ := device
  unfold ofLearned
  cases derivePair learned.code with
  | error e => exact ⟨nofun, nofun⟩
  | ok pair =>
    obtain ⟨on', off'⟩ := pair
    change Except.ok (Registration.mk name on' off' learned.pulse) = _ ↔ _
    simp only [Except.ok.injEq, mk.injEq, CodePair.mk.injEq]
    constructor <;>
    · rintro ⟨rfl, rfl, rfl, rfl⟩
      exact ⟨rfl, rfl, rfl, rfl⟩

/-- A device that is given in full needs a button: its on code is checked first. -/
theorem Registration.ofCodes_eq (name : String) (on off : Int64) (pulse : UInt32) :
    ofCodes name on off pulse =
      if on.toInt % 16 = 3 then
        if off.toInt = on.toInt + 9 then .ok ⟨name, on, off, pulse⟩
        else .error (.invalidCode off)
      else .error (.invalidCode on) := by
  by_cases hon : on.toInt % 16 = 3
  · have hbutton : (⟨on, on + 9⟩ : CodePair).IsButton := ⟨hon, toInt_add_nine hon⟩
    have hpair : derivePair on = .ok ⟨on, on + 9⟩ :=
      derivePair_eq_ok_iff_isButton.2 ⟨hbutton, Or.inl rfl⟩
    have hrole : classify on = some .on := hbutton.classify_on
    have hoff : on + 9 = off ↔ off.toInt = on.toInt + 9 := by
      rw [← Int64.toInt_inj, toInt_add_nine hon]
      exact eq_comm
    rw [ofCodes, hpair, if_pos hon]
    change (if classify on ≠ some .on then _ else if on + 9 ≠ off then _ else _) = _
    rw [hrole, if_neg (not_not_intro rfl), ite_not]
    simp only [hoff]
    rfl
  · rw [ofCodes, if_neg hon]
    cases hpair : derivePair on with
    | error e =>
      rw [eq_of_derivePair_error hpair]
      rfl
    | ok pair =>
      have hrole : classify on ≠ some .on := by
        rw [classify_eq, if_neg hon]
        split_ifs <;> exact nofun
      exact if_pos hrole

theorem Registration.ofCodes_eq_ok_iff {name : String} {on off : Int64} {pulse : UInt32}
    {device : Registration} :
    ofCodes name on off pulse = .ok device ↔ on.toInt % 16 = 3 ∧ off.toInt = on.toInt + 9 ∧
      device = ⟨name, on, off, pulse⟩ := by
  rw [ofCodes_eq]
  split_ifs with hon hoff
  · simp [hon, hoff, eq_comm]
  · simp [hoff]
  · simp [hon]

/-- Either code of a button makes its device. -/
theorem Registration.ofLearned_of_half {name : String} {on off code : Int64} {pulse : UInt32}
    (htag : on.toInt % 16 = 3) (hoff : off.toInt = on.toInt + 9) (hcode : code = on ∨ code = off) :
    ofLearned name ⟨code, pulse⟩ = .ok ⟨name, on, off, pulse⟩ :=
  ofLearned_eq_ok_iff.2 ⟨rfl, rfl, derivePair_eq_ok_iff.2 ⟨htag, hoff, hcode⟩⟩

/-- So do both of them. -/
theorem Registration.ofCodes_of_halves {name : String} {on off : Int64} {pulse : UInt32}
    (htag : on.toInt % 16 = 3) (hoff : off.toInt = on.toInt + 9) :
    ofCodes name on off pulse = .ok ⟨name, on, off, pulse⟩ :=
  ofCodes_eq_ok_iff.2 ⟨htag, hoff, rfl⟩

end LightHub
