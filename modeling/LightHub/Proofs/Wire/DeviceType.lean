/-
  Device types, read from texts.

  * `IsName`: the names of a type, in lower case; `ofName?_eq_some_iff`: exactly these
    are read as names.
  * `Denotes`: the texts that stand for a type, by its number or by a name;
    `parse_eq_ok_iff`: exactly these are read, in any letter case and with blanks around
    them.
  * `parse_exact`: **a device type is read exactly from the texts that stand for it**,
    and every other text is a usage fault.
-/
import LightHub.Fault
import LightHub.Proofs.Text.Numeral
import LightHub.Proofs.Text.Trim

namespace LightHub

/-! ## Beginnings -/

namespace Text

theorem begins_iff {start s : String} : begins start s = true ↔ ∃ rest, s = start ++ rest := by
  rw [begins, List.isPrefixOf_iff_prefix]
  constructor
  · rintro ⟨rest, hrest⟩
    refine ⟨String.ofList rest, ?_⟩
    rw [← String.toList_inj, ← hrest, String.toList_append, String.toList_ofList]
  · rintro ⟨rest, rfl⟩
    exact ⟨rest.toList, String.toList_append.symm⟩

theorem begins_append (start rest : String) : begins start (start ++ rest) = true :=
  begins_iff.2 ⟨rest, rfl⟩

/-- What follows the beginning of a word decides whether it begins with more. -/
theorem begins_append_eq_false {start more rest : String} (h : ∀ last, rest ≠ more ++ last) :
    begins (start ++ more) (start ++ rest) = false := by
  rw [Bool.eq_false_iff]
  intro hbegins
  obtain ⟨last, hlast⟩ := begins_iff.1 hbegins
  rw [String.append_assoc, String.append_right_inj] at hlast
  exact h last hlast

end Text

namespace DeviceType

open Text (Bare IsGap UnsignedNumeral begins begins_append begins_append_eq_false begins_iff)

variable {s t : String} {type : DeviceType}

/-! ## Names -/

/-- `t` is a name of the type.  Three types go by whole words, the others by how a word
    begins. -/
inductive IsName : String → DeviceType → Prop
  | outlet : IsName "outlet" .outlet
  | toggleable : IsName "toggleable" .outlet
  | outletToggleable : IsName "outlet/toggleable" .outlet
  | strip : IsName "strip" .powerStrip
  | powerStrip : IsName "powerstrip" .powerStrip
  | custom : IsName "custom" .custom
  | dimmable (rest : String) : IsName ("dim" ++ rest) .dimmable
  | cct (rest : String) : IsName ("cct" ++ rest) .cct
  | rgbCct (rest : String) : IsName ("rgbcct" ++ rest) .rgbCct
  | rgbw (rest : String) : IsName ("rgbw" ++ rest) .rgbw
  | rgb (rest : String) : (∀ more, rest ≠ "cct" ++ more) → (∀ more, rest ≠ "w" ++ more) →
      IsName ("rgb" ++ rest) .rgb

/-- The names that are whole words. -/
def wholeNames : List String :=
  ["outlet", "toggleable", "outlet/toggleable", "strip", "powerstrip", "custom"]

/-- A word that begins as no whole name does goes by its beginning. -/
theorem ofName?_of_begins {start : String} (h : begins start t = true)
    (hwhole : ∀ w ∈ wholeNames, begins start w = false) :
    ofName? t =
      if begins "dim" t then some dimmable
      else if begins "cct" t then some cct
      else if begins "rgbcct" t then some rgbCct
      else if begins "rgbw" t then some rgbw
      else if begins "rgb" t then some rgb
      else none := by
  have hne : ∀ w ∈ wholeNames, t ≠ w := by
    rintro w hw rfl
    rw [hwhole t hw] at h
    cases h
  simp only [wholeNames, List.forall_mem_cons] at hne
  obtain ⟨houtlet, htoggleable, hboth, hstrip, hpower, hcustom, -⟩ := hne
  simp only [ofName?, houtlet, htoggleable, hboth, hstrip, hpower, hcustom, or_false, if_false]

theorem ofName?_of_isName (h : IsName t type) : ofName? t = some type := by
  cases h with
  | dimmable rest =>
    rw [ofName?_of_begins (begins_append "dim" rest) (by decide), begins_append]
    rfl
  | cct rest =>
    rw [ofName?_of_begins (begins_append "cct" rest) (by decide), begins_append]
    simp [begins]
  | rgbCct rest =>
    rw [ofName?_of_begins (begins_append "rgbcct" rest) (by decide), begins_append]
    simp [begins]
  | rgbw rest =>
    rw [ofName?_of_begins (begins_append "rgbw" rest) (by decide), begins_append]
    simp [begins]
  | rgb rest hcct hw =>
    have hnotCct : begins "rgbcct" ("rgb" ++ rest) = false :=
      @begins_append_eq_false "rgb" "cct" rest hcct
    have hnotW : begins "rgbw" ("rgb" ++ rest) = false :=
      @begins_append_eq_false "rgb" "w" rest hw
    rw [ofName?_of_begins (begins_append "rgb" rest) (by decide), hnotCct, hnotW, begins_append]
    simp [begins]
  | _ => rfl

theorem isName_of_ofName? (h : ofName? t = some type) : IsName t type := by
  unfold ofName? at h
  split_ifs at h with houtlet hstrip hcustom hdim hcct hrgbCct hrgbw hrgb <;>
    obtain rfl := Option.some.inj h
  · rcases houtlet with rfl | rfl | rfl
    · exact .outlet
    · exact .toggleable
    · exact .outletToggleable
  · rcases hstrip with rfl | rfl
    · exact .strip
    · exact .powerStrip
  · subst hcustom
    exact .custom
  · obtain ⟨rest, rfl⟩ := begins_iff.1 hdim
    exact .dimmable rest
  · obtain ⟨rest, rfl⟩ := begins_iff.1 hcct
    exact .cct rest
  · obtain ⟨rest, rfl⟩ := begins_iff.1 hrgbCct
    exact .rgbCct rest
  · obtain ⟨rest, rfl⟩ := begins_iff.1 hrgbw
    exact .rgbw rest
  · obtain ⟨rest, rfl⟩ := begins_iff.1 hrgb
    refine .rgb rest ?_ ?_
    · rintro more rfl
      exact hrgbCct (begins_iff.2 ⟨more, by rw [← String.append_assoc]; rfl⟩)
    · rintro more rfl
      exact hrgbw (begins_iff.2 ⟨more, by rw [← String.append_assoc]; rfl⟩)

/-- **Exactly the names are read as names.** -/
theorem ofName?_eq_some_iff : ofName? t = some type ↔ IsName t type :=
  ⟨isName_of_ofName?, ofName?_of_isName⟩

/-- A name begins with a letter. -/
theorem IsName.head?_toList (h : IsName t type) :
    t.toList.head? ∈ ['o', 't', 's', 'p', 'c', 'd', 'r'].map some := by
  cases h <;> simp

/-- So no name is a numeral. -/
theorem IsName.not_numeral (h : IsName t type) (n : Nat) : ¬ UnsignedNumeral t n := by
  intro hn
  obtain ⟨c, cs, ht, hc, -⟩ := hn.exists_toList
  have hletter := h.head?_toList
  rw [ht, List.head?_cons, List.mem_map] at hletter
  obtain ⟨d, hd, hdc⟩ := hletter
  obtain rfl := Option.some.inj hdc
  have hnone : ∀ d ∈ ['o', 't', 's', 'p', 'c', 'd', 'r'], ¬ (d = '+' ∨ d.isDigit = true) := by
    simp
  exact hnone d hd hc

/-! ## Numbers and names -/

/-- `t` stands for the type, by its number or by a name. -/
inductive Denotes : String → DeviceType → Prop
  | number {t : String} {type : DeviceType} : UnsignedNumeral t type.id → Denotes t type
  | name {t : String} {type : DeviceType} : IsName t type → Denotes t type

theorem ofId?_eq_some_iff {n : Nat} : ofId? n = some type ↔ type.id = n := by
  constructor
  · intro h
    unfold ofId? at h
    split at h <;> cases h <;> rfl
  · rintro rfl
    exact ofId?_id type

theorem id_le (type : DeviceType) : type.id ≤ 7 := by
  cases type <;> decide

theorem id_toUInt8 (type : DeviceType) : (UInt8.ofNat type.id).toNat = type.id := by
  cases type <;> rfl

/-- Of a numeral of one byte, only the number counts. -/
theorem denotes_iff_of_numeral {n : Nat} (hn : UnsignedNumeral t n) :
    Denotes t type ↔ type.id = n := by
  constructor
  · rintro (hnumber | hname)
    · exact hnumber.unique hn
    · exact absurd hn (hname.not_numeral n)
  · rintro rfl
    exact .number hn

/-- Of any other text, only a name counts. -/
theorem denotes_iff_of_uint8?_eq_none (h : Text.uint8? t.toList = none) :
    Denotes t type ↔ IsName t type := by
  constructor
  · rintro (hnumber | hname)
    · rw [← id_toUInt8, ← Text.uint8?_eq_some_iff, h] at hnumber
      cases hnumber
    · exact hname
  · exact .name

/-- **Exactly the texts that stand for a type are read.** -/
theorem parse_eq_ok_iff : parse s = .ok type ↔ Denotes (Text.lower (Text.trim s)) type := by
  unfold parse
  generalize Text.lower (Text.trim s) = t
  dsimp only
  split
  · rename_i n hread
    rw [denotes_iff_of_numeral (Text.uint8?_eq_some_iff.1 hread), ← ofId?_eq_some_iff]
    split <;> simp [*]
  · rename_i hread
    rw [denotes_iff_of_uint8?_eq_none hread, ← ofName?_eq_some_iff]
    split <;> simp [*]

/-- A number that is no type's stands for none. -/
theorem not_denotes_of_numeral {n : Nat} (hn : UnsignedNumeral t n) (hlarge : 7 < n) :
    ¬ Denotes t type := by
  rw [denotes_iff_of_numeral hn]
  exact Nat.ne_of_lt (Nat.lt_of_le_of_lt type.id_le hlarge)

/-! ## Texts -/

/-- A text as a device type, with the fault of a text that is none. -/
def ofText (s : String) : Except Fault DeviceType :=
  (parse s).mapError fun cause => .usage (.unknownDeviceType cause)

theorem ofText_eq_ok_iff : ofText s = .ok type ↔ Denotes (Text.lower (Text.trim s)) type := by
  rw [← parse_eq_ok_iff, ofText]
  cases parse s <;> simp [Except.mapError]

/-- The only fault of a text is that it is no device type. -/
theorem usage_of_ofText {e : Fault} (h : ofText s = .error e) : ∃ cause, e = .usage cause := by
  rw [ofText] at h
  cases hparse : parse s with
  | ok type =>
    rw [hparse] at h
    cases h
  | error cause =>
    rw [hparse] at h
    exact ⟨_, (Except.error.inj h).symm⟩

/-- A text that stands for no type is a usage fault. -/
theorem exists_usage_of_not_denotes (h : ∀ type, ¬ Denotes (Text.lower (Text.trim s)) type) :
    ∃ cause, ofText s = .error (.usage cause) := by
  cases hread : ofText s with
  | ok type => exact absurd (ofText_eq_ok_iff.1 hread) (h type)
  | error e =>
    obtain ⟨cause, rfl⟩ := usage_of_ofText hread
    exact ⟨cause, rfl⟩

/-- Texts with the same letters are trimmed to texts with the same letters. -/
theorem lower_trim_eq {lead trail s' : String} (hlead : IsGap lead) (htrail : IsGap trail)
    (hletters : Text.lower s' = Text.lower s) :
    Text.lower (Text.trim (lead ++ s' ++ trail)) = Text.lower (Text.trim s) := by
  rw [Text.trim_gaps hlead htrail, Text.lower_trim, hletters, Text.lower_trim]

theorem ofText_id (type : DeviceType) : ofText (toString type.id) = .ok type := by
  cases type <;> rfl

/-- **A device type is read exactly from the texts that stand for it.**  Of a text, only
    what is bare counts, in lower case: the number of a type, or one of its names.  Every
    other text is a usage fault, also a number that is too large, of any length.  So
    neither blanks around a text nor its letter case make a difference, and every type
    is read from its own number. -/
theorem ofText_exact (s : String) :
    (∃ lead bare trail, s = lead ++ bare ++ trail ∧ IsGap lead ∧ IsGap trail ∧ Bare bare ∧
        (∀ type, ofText s = .ok type ↔ Denotes (Text.lower bare) type) ∧
        ((∀ type, ¬ Denotes (Text.lower bare) type) → ∃ cause, ofText s = .error (.usage cause)) ∧
        ∀ n, UnsignedNumeral (Text.lower bare) n → 7 < n →
          ∃ cause, ofText s = .error (.usage cause)) ∧
      (∀ lead s' trail, IsGap lead → IsGap trail → Text.lower s' = Text.lower s →
        ∀ type, ofText (lead ++ s' ++ trail) = .ok type ↔ ofText s = .ok type) ∧
      ∀ type : DeviceType, ofText (toString type.id) = .ok type := by
  refine ⟨?_, fun lead s' trail hlead htrail hletters type => ?_, ofText_id⟩
  · obtain ⟨lead, trail, hlead, htrail, hs, hbare⟩ := Text.exists_gaps s
    refine ⟨lead, Text.trim s, trail, hs, hlead, htrail, hbare, fun type => ofText_eq_ok_iff,
      exists_usage_of_not_denotes, fun n hn hlarge => ?_⟩
    exact exists_usage_of_not_denotes fun type => not_denotes_of_numeral hn hlarge
  · rw [ofText_eq_ok_iff, ofText_eq_ok_iff, lower_trim_eq hlead htrail hletters]

/-- A longer name is not taken for a shorter one that it begins with, and a number may
    have zeros in front. -/
example : ofText "\u2003RgbW5050\n" = .ok .rgbw ∧ ofText "+0007" = .ok .custom := by decide

end DeviceType

end LightHub
