/-
  Replies that carry data, read by their layouts.

  * `Layout.Fits`: tokens stand in the places of a layout, and these are its values.
  * `fits_label_iff`, `fits_field_iff`: the places, one after the other.
  * `extract_eq_ok_iff`: **a reply is matched exactly if its tokens fit**;
    `malformed_of_extract`: the fault of every other reply.
  * `Fields.number_eq_ok_iff`, `malformed_of_number`: the same for a number.
-/
import LightHub.Proofs.Wire.Checks
import LightHub.Wire.Layout

namespace LightHub

namespace Layout

/-- The tokens stand in the places of the slots, perhaps with more after them, and
    `values` are those of the fields. -/
inductive Fits : List Slot → List String → List (String × String) → Prop
  | nil (more : List String) : Fits [] more []
  | label {word token : String} {slots : List Slot} {tokens : List String}
      {values : List (String × String)} : Text.lower token = Text.lower word →
      Fits slots tokens values → Fits (.label word :: slots) (token :: tokens) values
  | field (field token : String) {slots : List Slot} {tokens : List String}
      {values : List (String × String)} :
      Fits slots tokens values → Fits (.field field :: slots) (token :: tokens)
        ((field, token) :: values)

variable {name : String} {slots : List Slot} {tokens : List String}
  {values : List (String × String)}

theorem Fits.length_le (h : Fits slots tokens values) : slots.length ≤ tokens.length := by
  induction h with
  | nil more => exact Nat.zero_le _
  | label _ _ ih | field _ _ _ ih => exact Nat.succ_le_succ ih

theorem fits_nil_iff : Fits [] tokens values ↔ values = [] := by
  constructor
  · rintro ⟨⟩
    rfl
  · rintro rfl
    exact .nil tokens

theorem fits_label_iff {word : String} :
    Fits (.label word :: slots) tokens values ↔ ∃ token more, tokens = token :: more ∧
      Text.lower token = Text.lower word ∧ Fits slots more values := by
  constructor
  · rintro (_ | ⟨hword, h⟩)
    exact ⟨_, _, rfl, hword, h⟩
  · rintro ⟨token, more, rfl, hword, h⟩
    exact .label hword h

theorem fits_field_iff {field : String} :
    Fits (.field field :: slots) tokens values ↔ ∃ token more rest, tokens = token :: more ∧
      Fits slots more rest ∧ values = (field, token) :: rest := by
  constructor
  · rintro (_ | _ | ⟨_, _, h⟩)
    exact ⟨_, _, _, rfl, h, rfl⟩
  · rintro ⟨token, more, rest, rfl, h, rfl⟩
    exact .field field token h

/-- Slots are paired with tokens one by one, if there are tokens enough. -/
theorem matchSlots_eq_ok_iff (i : Nat) (hlength : slots.length ≤ tokens.length) :
    matchSlots name i slots tokens = .ok values ↔ Fits slots tokens values := by
  induction slots generalizing i tokens values with
  | nil =>
    constructor
    · rintro ⟨⟩
      exact .nil tokens
    · rintro ⟨⟩
      rfl
  | cons slot slots ih =>
    cases tokens with
    | nil => exact absurd hlength (Nat.not_succ_le_zero _)
    | cons token tokens =>
      have htail := Nat.le_of_succ_le_succ hlength
      cases slot with
      | label word =>
        rw [matchSlots]
        split_ifs with hword
        · rw [ih (i + 1) htail]
          refine ⟨.label (Text.sameLetters_iff.1 hword), ?_⟩
          rintro (_ | ⟨_, h⟩)
          exact h
        · refine iff_of_false nofun ?_
          rintro (_ | ⟨hlower, _⟩)
          exact hword (Text.sameLetters_iff.2 hlower)
      | field field =>
        rw [matchSlots]
        constructor
        · intro h
          obtain ⟨rest, hrest, rfl⟩ := map_eq_ok_iff.1 h
          exact .field field token ((ih (i + 1) htail).1 hrest)
        · rintro (_ | _ | ⟨_, _, h⟩)
          exact map_eq_ok_iff.2 ⟨_, (ih (i + 1) htail).2 h, rfl⟩

/-- **A reply is matched exactly if its tokens fit.** -/
theorem extract_eq_ok_iff {l : Layout} {r : Reply} {fields : Fields} :
    l.extract r = .ok fields ↔ fields.layout = l.name ∧ Fits l.slots r.tokens fields.values := by
  unfold extract
  split_ifs with hlength
  · refine iff_of_false nofun ?_
    rintro ⟨-, h⟩
    exact absurd h.length_le (Nat.not_le_of_lt hlength)
  · rw [map_eq_ok_iff]
    have hmatch (values : List (String × String)) :
        matchSlots l.name 0 l.slots r.tokens = .ok values ↔ Fits l.slots r.tokens values :=
      matchSlots_eq_ok_iff 0 (Nat.le_of_not_lt hlength)
    constructor
    · rintro ⟨values, h, rfl⟩
      exact ⟨rfl, (hmatch values).1 h⟩
    · rintro ⟨hname, h⟩
      exact ⟨fields.values, (hmatch fields.values).2 h, by rw [← hname]⟩

theorem malformed_of_matchSlots {i : Nat} {e : Fault}
    (h : matchSlots name i slots tokens = .error e) : e.Malformed [name] := by
  induction slots generalizing i tokens with
  | nil => cases h
  | cons slot slots ih =>
    cases tokens with
    | nil => cases slot <;> cases h
    | cons token tokens =>
      cases slot with
      | label word =>
        rw [matchSlots] at h
        split_ifs at h with hword
        · exact ih h
        · exact ⟨_, (Except.error.inj h).symm, rfl⟩
      | field field => exact ih (map_eq_error_iff.1 h)

/-- The fault of every other reply is that it is malformed.  The layout is named, and
    all that the reply says is quoted. -/
theorem malformed_of_extract {l : Layout} {r : Reply} {e : Fault} (h : l.extract r = .error e) :
    e.Malformed [l.name] := by
  unfold extract at h
  split_ifs at h
  · exact ⟨_, (Except.error.inj h).symm, rfl⟩
  · exact malformed_of_matchSlots (map_eq_error_iff.1 h)

end Layout

namespace Fields

variable {α : Type} {read : List Char → Option α} {f : Fields} {field : String}

theorem number_eq_ok_iff {n : α} :
    f.number read field = .ok n ↔
      ∃ token, f.get field = .ok token ∧ read token.toList = some n := by
  rw [number, bind_eq_ok_iff]
  refine exists_congr fun token => and_congr_right fun _ => ?_
  cases read token.toList <;> simp

theorem malformed_of_get {e : Fault} (h : f.get field = .error e) : e.Malformed [f.layout] := by
  unfold get at h
  split at h
  · cases h
  · exact ⟨_, (Except.error.inj h).symm, rfl⟩

theorem malformed_of_number {e : Fault} (h : f.number read field = .error e) :
    e.Malformed [f.layout] := by
  cases hget : f.get field with
  | error e' =>
    rw [number, hget] at h
    obtain rfl := Except.error.inj h
    exact malformed_of_get hget
  | ok token =>
    cases hread : read token.toList with
    | some n => exact absurd ((number_eq_ok_iff.2 ⟨token, hget, hread⟩).symm.trans h) nofun
    | none =>
      rw [number, hget] at h
      simp only [bind, Except.bind, hread] at h
      exact ⟨_, (Except.error.inj h).symm, rfl⟩

end Fields

end LightHub
