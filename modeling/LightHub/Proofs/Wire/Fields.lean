/-
  Replies that carry data, by position.

  * `LabelsFit`: every label stands at its place; `fits_iff`: tokens fit a layout if
    there are enough of them and its labels stand at their places.
  * `FirstField`: the place of a value; `Fits.get_eq_ok_iff`, `Fits.get_eq_error_iff`:
    a value by its name.
  * `Fits.append`, `Fits.recased`: what makes no difference to the values of a reply.
  * `extract_exact`: **what is extracted from a reply is known by its positions.**
-/
import LightHub.Proofs.Wire.Layout

namespace LightHub

/-- Whether a slot holds a value. -/
def Slot.isField : Slot → Bool
  | label _ => false
  | field _ => true

namespace Layout

variable {slots : List Slot} {tokens tokens' : List String} {values : List (String × String)}
  {name : String}

/-! ## Labels -/

/-- At the place of every label stands its word, in any letter case. -/
def LabelsFit (slots : List Slot) (tokens : List String) : Prop :=
  ∀ (i : Nat) (word : String), slots[i]? = some (.label word) →
    ∃ token, tokens[i]? = some token ∧ Text.lower token = Text.lower word

theorem labelsFit_label_iff {word token : String} :
    LabelsFit (.label word :: slots) (token :: tokens) ↔
      Text.lower token = Text.lower word ∧ LabelsFit slots tokens := by
  constructor
  · intro h
    obtain ⟨first, hfirst, hword⟩ := h 0 word rfl
    obtain rfl := Option.some.inj hfirst
    exact ⟨hword, fun i => h (i + 1)⟩
  · rintro ⟨hword, h⟩ (_ | i) word' hslot
    · obtain rfl : word = word' := by simpa using hslot
      exact ⟨token, rfl, hword⟩
    · exact h i word' hslot

theorem labelsFit_field_iff {field token : String} :
    LabelsFit (.field field :: slots) (token :: tokens) ↔ LabelsFit slots tokens := by
  constructor
  · exact fun h i => h (i + 1)
  · rintro h (_ | i) word hslot
    · simp at hslot
    · exact h i word hslot

/-- Tokens that fit are enough, and the labels stand at their places. -/
theorem exists_fits_iff :
    (∃ values, Fits slots tokens values) ↔
      slots.length ≤ tokens.length ∧ LabelsFit slots tokens := by
  induction slots generalizing tokens with
  | nil => exact iff_of_true ⟨[], .nil tokens⟩ ⟨Nat.zero_le _, nofun⟩
  | cons slot slots ih =>
    cases tokens with
    | nil =>
      refine iff_of_false ?_ fun h => absurd h.1 (Nat.not_succ_le_zero _)
      rintro ⟨values, h⟩
      exact absurd h.length_le (Nat.not_succ_le_zero _)
    | cons token tokens =>
      rw [List.length_cons, List.length_cons, Nat.succ_le_succ_iff]
      cases slot with
      | label word =>
        rw [labelsFit_label_iff, and_left_comm, ← ih]
        constructor
        · rintro ⟨values, ⟨⟩ | ⟨hword, h⟩⟩
          exact ⟨hword, values, h⟩
        · rintro ⟨hword, values, h⟩
          exact ⟨values, .label hword h⟩
      | field field =>
        rw [labelsFit_field_iff, ← ih]
        constructor
        · rintro ⟨_, ⟨⟩ | ⟨⟩ | ⟨_, _, h⟩⟩
          exact ⟨_, h⟩
        · rintro ⟨values, h⟩
          exact ⟨_, .field field token h⟩

/-! ## Values by name -/

/-- The first slot for values of that name. -/
def FirstField (slots : List Slot) (name : String) (i : Nat) : Prop :=
  slots[i]? = some (.field name) ∧ ∀ j < i, slots[j]? ≠ some (.field name)

theorem firstField_zero : FirstField (.field name :: slots) name 0 :=
  ⟨rfl, nofun⟩

/-- Another slot in front does not count. -/
theorem firstField_succ_iff {slot : Slot} {i : Nat} (hslot : slot ≠ .field name) :
    FirstField (slot :: slots) name (i + 1) ↔ FirstField slots name i := by
  refine and_congr_right fun _ => ⟨fun h j hj => h (j + 1) (Nat.succ_lt_succ hj), ?_⟩
  rintro h (_ | j) hj
  · simpa using hslot
  · exact h j (Nat.lt_of_succ_lt_succ hj)

theorem FirstField.unique {i j : Nat} (hi : FirstField slots name i)
    (hj : FirstField slots name j) : i = j := by
  rcases Nat.lt_trichotomy i j with h | h | h
  · exact absurd hi.1 (hj.2 i h)
  · exact h
  · exact absurd hj.1 (hi.2 j h)

namespace Fits

/-- There is a value for each slot that holds one. -/
theorem length_values (h : Fits slots tokens values) :
    values.length = slots.countP Slot.isField := by
  induction h with
  | nil => rfl
  | label _ _ ih => rw [List.countP_cons_of_neg Bool.false_ne_true, ih]
  | field _ _ _ ih => rw [List.countP_cons_of_pos rfl, List.length_cons, ih]

/-- The first value of a name stands at the first slot for it. -/
theorem find?_eq (h : Fits slots tokens values) (name : String) :
    (∃ i token, FirstField slots name i ∧ tokens[i]? = some token ∧
        values.find? (·.1 = name) = some (name, token)) ∨
      .field name ∉ slots ∧ values.find? (·.1 = name) = none := by
  induction h with
  | nil => exact .inr ⟨List.not_mem_nil, rfl⟩
  | @label word token slots tokens values _ _ ih =>
    have hslot : Slot.label word ≠ .field name := nofun
    rcases ih with ⟨i, value, hi, hvalue, hfind⟩ | ⟨hname, hfind⟩
    · exact .inl ⟨i + 1, value, (firstField_succ_iff hslot).2 hi, hvalue, hfind⟩
    · exact .inr ⟨List.not_mem_cons_of_ne_of_not_mem hslot.symm hname, hfind⟩
  | @field field token slots tokens values _ ih =>
    by_cases hfield : field = name
    · subst hfield
      exact .inl ⟨0, token, firstField_zero, rfl, List.find?_cons_of_pos (by simp)⟩
    · have hslot : Slot.field field ≠ .field name := fun heq => hfield (Slot.field.inj heq)
      rw [List.find?_cons_of_neg (by simpa using hfield)]
      rcases ih with ⟨i, value, hi, hvalue, hfind⟩ | ⟨hname, hfind⟩
      · exact .inl ⟨i + 1, value, (firstField_succ_iff hslot).2 hi, hvalue, hfind⟩
      · exact .inr ⟨List.not_mem_cons_of_ne_of_not_mem hslot.symm hname, hfind⟩

variable {fields : Fields}

/-- A value by its name, by the place that it stands at. -/
theorem get_eq_ok_iff (h : Fits slots tokens fields.values) {token : String} :
    fields.get name = .ok token ↔
      ∃ i, FirstField slots name i ∧ tokens[i]? = some token := by
  rcases h.find?_eq name with ⟨i, value, hi, hvalue, hfind⟩ | ⟨hname, hfind⟩
  · simp only [Fields.get, hfind, Except.ok.injEq]
    constructor
    · rintro rfl
      exact ⟨i, hi, hvalue⟩
    · rintro ⟨j, hj, htoken⟩
      rw [hj.unique hi, hvalue] at htoken
      exact Option.some.inj htoken
  · simp only [Fields.get, hfind]
    refine iff_of_false nofun ?_
    rintro ⟨i, hi, -⟩
    exact hname (List.mem_of_getElem? hi.1)

theorem get_eq_error_iff (h : Fits slots tokens fields.values) {e : Fault} :
    fields.get name = .error e ↔
      .field name ∉ slots ∧ e = .malformed (.noField fields.layout name) := by
  rcases h.find?_eq name with ⟨i, value, hi, hvalue, hfind⟩ | ⟨hname, hfind⟩
  · simp only [Fields.get, hfind]
    exact iff_of_false nofun fun hno => hno.1 (List.mem_of_getElem? hi.1)
  · simp only [Fields.get, hfind, Except.error.injEq, hname, not_false_eq_true, true_and]
    exact eq_comm

/-! ## Other tokens -/

/-- Tokens after the last slot make no difference. -/
theorem append (h : Fits slots tokens values) (more : List String) :
    Fits slots (tokens ++ more) values := by
  induction h with
  | nil tokens => exact .nil (tokens ++ more)
  | label hword _ ih => exact .label hword ih
  | field name token _ ih => exact .field name token ih

end Fits

/-- The same tokens, but for the letter case of those at the places of labels. -/
inductive Recased : List Slot → List String → List String → Prop
  | rest (slots : List Slot) : Recased slots [] []
  | more (tokens : List String) : Recased [] tokens tokens
  | label {slots : List Slot} {tokens tokens' : List String} {token token' : String}
      (word : String) : Text.lower token = Text.lower token' → Recased slots tokens tokens' →
      Recased (.label word :: slots) (token :: tokens) (token' :: tokens')
  | field {slots : List Slot} {tokens tokens' : List String} (name token : String) :
      Recased slots tokens tokens' →
      Recased (.field name :: slots) (token :: tokens) (token :: tokens')

theorem Recased.symm (h : Recased slots tokens tokens') : Recased slots tokens' tokens := by
  induction h with
  | rest slots => exact .rest slots
  | more tokens => exact .more tokens
  | label word hcase _ ih => exact .label word hcase.symm ih
  | field name token _ ih => exact .field name token ih

/-- The letter case of labels makes no difference. -/
theorem Fits.recased (h : Fits slots tokens values) (hcase : Recased slots tokens tokens') :
    Fits slots tokens' values := by
  induction hcase generalizing values with
  | rest | more => exact h
  | label word hlower _ ih =>
    cases h with
    | label hword h => exact .label (hlower ▸ hword) (ih h)
  | field name token _ ih =>
    cases h with
    | field _ _ h => exact .field name token (ih h)

/-! ## Extraction -/

/-- **What is extracted from a reply is known by its positions.**  A reply is matched
    exactly if it has enough tokens and its labels stand at their places, in any letter
    case.  A value goes by the first slot of its name, and there is none only if no slot
    has that name.  Neither more tokens nor the letter case of labels makes a difference
    to what is extracted. -/
theorem extract_exact (l : Layout) (r : Reply) :
    ((l.extract r).isOk ↔
        l.slots.length ≤ r.tokens.length ∧ LabelsFit l.slots r.tokens) ∧
      (∀ fields, l.extract r = .ok fields →
        (∀ name token, fields.get name = .ok token ↔
          ∃ i, FirstField l.slots name i ∧ r.tokens[i]? = some token) ∧
        (∀ name e, fields.get name = .error e ↔
          .field name ∉ l.slots ∧ e = .malformed (.noField l.name name)) ∧
        fields.values.length = l.slots.countP Slot.isField) ∧
      (∀ fields more, l.extract r = .ok fields →
        l.extract { r with tokens := r.tokens ++ more } = .ok fields) ∧
      ∀ tokens, Recased l.slots r.tokens tokens → ∀ fields,
        l.extract { r with tokens } = .ok fields ↔ l.extract r = .ok fields := by
  refine ⟨?_, fun fields h => ?_, fun fields more h => ?_, fun tokens hcase fields => ?_⟩
  · rw [← exists_fits_iff]
    constructor
    · intro h
      cases hextract : l.extract r with
      | error e =>
        rw [hextract] at h
        cases h
      | ok fields => exact ⟨fields.values, (extract_eq_ok_iff.1 hextract).2⟩
    · rintro ⟨values, h⟩
      rw [extract_eq_ok_iff.2 (⟨rfl, h⟩ : Fields.layout ⟨l.name, values⟩ = l.name ∧ _)]
      rfl
  · obtain ⟨hname, hfits⟩ := extract_eq_ok_iff.1 h
    refine ⟨fun name token => hfits.get_eq_ok_iff, fun name e => ?_, hfits.length_values⟩
    rw [← hname]
    exact hfits.get_eq_error_iff
  · obtain ⟨hname, hfits⟩ := extract_eq_ok_iff.1 h
    exact extract_eq_ok_iff.2 ⟨hname, hfits.append more⟩
  · rw [extract_eq_ok_iff, extract_eq_ok_iff]
    exact and_congr_right fun _ => ⟨fun h => h.recased hcase.symm, fun h => h.recased hcase⟩

/-- The first of two slots of one name counts. -/
example :
    let pair : Layout := ⟨"pair", [.field "code", .label "and", .field "code"]⟩
    (pair.extract ⟨"KL/0.2", .ok, ["17", "AND", "26", "more"]⟩ >>= (·.get "code")) = .ok "17" :=
  rfl

end Layout

end LightHub
