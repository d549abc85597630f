/-
  Control characters, which a terminal or a log acts on.

  * `isControl`: U+0000 to U+001F, and U+007F to U+009F.
  * `Clean`: a text without any of them.
  * `clean_quoted`: **quoting leaves no control character**, whatever the text is.
-/
import LightHub.Proofs.Text.Numeral
import LightHub.Proofs.Text.Trim
import LightHub.Text.Quoted

namespace LightHub.Text

def isControl (c : Char) : Bool :=
  c.toNat ≤ 0x1F || (0x7F ≤ c.toNat && c.toNat ≤ 0x9F)

/-- No control character stands in the text. -/
def Clean (s : String) : Prop :=
  ∀ c ∈ s.toList, isControl c = false

instance (s : String) : Decidable (Clean s) :=
  decidable_of_iff (s.toList.all (fun c => !isControl c) = true) (by simp [Clean])

variable {s t : String}

@[simp]
theorem clean_append : Clean (s ++ t) ↔ Clean s ∧ Clean t := by
  simp [Clean, or_imp, forall_and]

/-- For fixed texts: simp drops what `decide` finds to be clean. -/
theorem clean_iff_true (h : Clean s) : Clean s ↔ True :=
  iff_true_intro h

/-! ## Quoted texts -/

theorem isControl_of_isPrintable {c : Char} (h : isPrintable c = true) : isControl c = false := by
  rw [← Bool.not_eq_true]
  intro hc
  rw [isControl, Bool.or_eq_true, Bool.and_eq_true, decide_eq_true_eq, decide_eq_true_eq,
    decide_eq_true_eq] at hc
  rw [isPrintable_control hc] at h
  cases h

theorem isControl_of_isDigit {c : Char} (h : c.isDigit = true) : isControl c = false := by
  simp only [Char.isDigit, Bool.and_eq_true, decide_eq_true_eq, UInt32.le_iff_toNat_le] at h
  have hlo : 48 ≤ c.toNat := h.1
  have hhi : c.toNat ≤ 57 := h.2
  unfold isControl
  grind

theorem isControl_of_hexDigit? {c : Char} (h : (hexDigit? c).isSome = true) :
    isControl c = false := by
  unfold hexDigit? at h
  split_ifs at h with hdigit hlower hupper
  · exact isControl_of_isDigit hdigit
  · have hlo : 97 ≤ c.toNat := UInt32.le_iff_toNat_le.1 hlower.1
    have hhi : c.toNat ≤ 102 := UInt32.le_iff_toNat_le.1 hlower.2
    unfold isControl
    grind
  · have hlo : 65 ≤ c.toNat := UInt32.le_iff_toNat_le.1 hupper.1
    have hhi : c.toNat ≤ 70 := UInt32.le_iff_toNat_le.1 hupper.2
    unfold isControl
    grind
  · cases h

/-- What is not printable is escaped, and no escape has a control character in it. -/
theorem clean_escaped (c : Char) : Clean (String.ofList (escaped c)) := by
  unfold escaped
  split_ifs with _ _ _ _ _ _ hprintable
  -- an escape with a letter is a fixed text
  any_goals decide
  · intro d hd
    rw [String.toList_ofList] at hd
    obtain rfl := List.mem_singleton.1 hd
    exact isControl_of_isPrintable hprintable
  · rw [String.ofList_append, String.ofList_append, clean_append, clean_append]
    refine ⟨⟨by decide, fun d hd => ?_⟩, by decide⟩
    rw [String.toList_ofList] at hd
    exact isControl_of_hexDigit? (isSome_hexDigit? (hexFrom?_toDigits c.toNat) d hd)

/-- **Quoting leaves no control character**, whatever the text is. -/
@[simp]
theorem clean_quoted (s : String) : Clean (quoted s) := by
  have hbody : Clean (String.ofList (s.toList.flatMap escaped)) := by
    intro d hd
    rw [String.toList_ofList] at hd
    obtain ⟨c, -, hmem⟩ := List.mem_flatMap.1 hd
    exact clean_escaped c d (by rwa [String.toList_ofList])
  have hquote : Clean "\"" := by decide
  rw [quoted, clean_append, clean_append]
  exact ⟨⟨hquote, hbody⟩, hquote⟩

/-! ## Numbers -/

theorem Numeral.clean {n : Nat} (h : Numeral s n) : Clean s :=
  fun c hc => isControl_of_isDigit (h.isDigit c hc)

theorem SignedNumeral.clean {i : Int} (h : SignedNumeral s i) : Clean s := by
  rcases h with (h | h) | h
  · exact h.clean
  · exact clean_append.2 ⟨by decide, h.clean⟩
  · exact clean_append.2 ⟨by decide, h.clean⟩

@[simp]
theorem clean_natRepr (n : Nat) : Clean n.repr :=
  (numeral_toString n).clean

@[simp]
theorem clean_intRepr (i : Int) : Clean i.repr :=
  (signedNumeral_toString i).clean

/-! ## Letter case -/

theorem isControl_toUpper (c : Char) : isControl c.toUpper = isControl c := by
  unfold isControl
  rw [toNat_toUpper]
  split
  · grind
  · rfl

theorem isControl_toLower (c : Char) : isControl c.toLower = isControl c := by
  unfold isControl
  rw [toNat_toLower]
  split
  · grind
  · rfl

/-- Letter case makes no difference. -/
@[simp]
theorem clean_upper : Clean (upper s) ↔ Clean s := by
  simp [Clean, upper, isControl_toUpper]

@[simp]
theorem clean_lower : Clean (lower s) ↔ Clean s := by
  simp [Clean, lower, isControl_toLower]

end LightHub.Text
