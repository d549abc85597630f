/-
  The text of a version.

  * `toList_text`: the prefix and two numerals with a dot between them.
  * `takeWhile_digits`, `dropWhile_digits`: the first dot is the one between
    the numerals.
  * `text_injective`: **no two versions have the same text.**
  * `VersionText`: every way to write a version; `parse?_eq_some_iff`: **exactly the
    texts of a version are read as it.**
  * `parse?_text`: a version reads back from its text, except for 0.0;
    `ne_zero_of_parse?`: no text reads as that one.
-/
import LightHub.Proofs.Text.Numeral
import LightHub.Wire.Version

namespace LightHub.Version

open Text (IsWord UnsignedNumeral)

variable {s tag : String} {v : Version} {n : Nat}

theorem toList_text (v : Version) :
    v.text.toList = 'K' :: 'L' :: '/' ::
      (Nat.toDigits 10 v.major.toNat ++ '.' :: Nat.toDigits 10 v.minor.toNat) := by
  simp [text, Nat.toList_repr]

theorem isWord_text (v : Version) : IsWord v.text := by
  unfold IsWord
  rw [toList_text]
  refine ⟨List.cons_ne_nil _ _, fun c hc => ?_⟩
  simp only [List.mem_cons, List.mem_append] at hc
  rcases hc with rfl | rfl | rfl | hc | rfl | hc
  · rfl
  · rfl
  · rfl
  · exact Text.isBlank_of_isDigit (Text.isDigit_of_mem_toDigits hc)
  · rfl
  · exact Text.isBlank_of_isDigit (Text.isDigit_of_mem_toDigits hc)

/-! ## The dot -/

theorem ne_dot_of_mem_toDigits {n : Nat} {c : Char} (h : c ∈ Nat.toDigits 10 n) : c ≠ '.' := by
  rintro rfl
  exact absurd (Text.isDigit_of_mem_toDigits h) (by decide)

theorem takeWhile_digits (n : Nat) (rest : List Char) :
    (Nat.toDigits 10 n ++ '.' :: rest).takeWhile (· ≠ '.') = Nat.toDigits 10 n := by
  rw [List.takeWhile_append_of_pos fun c hc => by simpa using ne_dot_of_mem_toDigits hc]
  simp

theorem dropWhile_digits (n : Nat) (rest : List Char) :
    (Nat.toDigits 10 n ++ '.' :: rest).dropWhile (· ≠ '.') = '.' :: rest := by
  rw [List.dropWhile_append_of_pos fun c hc => by simpa using ne_dot_of_mem_toDigits hc]
  simp

/-- **No two versions have the same text.** -/
theorem text_injective {v w : Version} (h : v.text = w.text) : v = w := by
  have hlist := congrArg String.toList h
  simp only [toList_text, List.cons.injEq, true_and] at hlist
  have hmajor := congrArg (List.takeWhile (· ≠ '.')) hlist
  have hminor := congrArg (List.dropWhile (· ≠ '.')) hlist
  rw [takeWhile_digits, takeWhile_digits] at hmajor
  rw [dropWhile_digits, dropWhile_digits, List.cons.injEq] at hminor
  have h₁ := congrArg Text.uint8? hmajor
  have h₂ := congrArg Text.uint8? hminor.2
  rw [Text.uint8?_toDigits, Text.uint8?_toDigits, Option.some.injEq] at h₁ h₂
  cases v
  cases w
  simp_all

/-! ## Texts that are read -/

/-- The prefix of a version text, in any letter case, or nothing. -/
def IsTag (tag : String) : Prop :=
  tag = "" ∨ Text.upper tag = "KL/"

instance (tag : String) : Decidable (IsTag tag) :=
  inferInstanceAs (Decidable (tag = "" ∨ Text.upper tag = "KL/"))

/-- `s` writes the version `v`: two numerals with a dot between them, perhaps after
    the prefix.  The version 0.0 is never written. -/
inductive VersionText : String → Version → Prop
  | mk {tag major minor : String} {v : Version} : IsTag tag →
      UnsignedNumeral major v.major.toNat → UnsignedNumeral minor v.minor.toNat → v ≠ ⟨0, 0⟩ →
      VersionText (tag ++ major ++ "." ++ minor) v

theorem ne_dot_of_mem_numeral (h : UnsignedNumeral s n) : ∀ c ∈ s.toList, (c ≠ '.' : Bool) := by
  obtain ⟨c, cs, hs, hc, hcs⟩ := h.exists_toList
  have hdigit (d : Char) (hd : d.isDigit = true) : (d ≠ '.' : Bool) := by
    rw [decide_eq_true_eq]
    rintro rfl
    cases hd
  rw [hs, List.forall_mem_cons]
  refine ⟨?_, fun d hd => hdigit d (hcs d hd)⟩
  rcases hc with rfl | hc
  · rfl
  · exact hdigit c hc

theorem ofNumbers?_eq_some_iff {cs : List Char} :
    ofNumbers? cs = some v ↔ ∃ major minor : String, cs = major.toList ++ '.' :: minor.toList ∧
      UnsignedNumeral major v.major.toNat ∧ UnsignedNumeral minor v.minor.toNat ∧ v ≠ ⟨0, 0⟩ := by
  constructor
  · intro h
    have hsplit := List.takeWhile_append_dropWhile (p := (· ≠ '.')) (l := cs)
    unfold ofNumbers? at h
    split at h
    next => cases h
    next dot rest hrest =>
      obtain ⟨major, hmajor, h⟩ := Option.bind_eq_some_iff.1 h
      obtain ⟨minor, hminor, h⟩ := Option.bind_eq_some_iff.1 h
      obtain ⟨hne, hv⟩ := Option.ite_none_left_eq_some.1 h
      obtain rfl := Option.some.inj hv
      rw [← String.toList_ofList (l := List.takeWhile _ cs)] at hmajor
      rw [← String.toList_ofList (l := rest)] at hminor
      refine ⟨_, _, ?_, Text.uint8?_eq_some_iff.1 hmajor, Text.uint8?_eq_some_iff.1 hminor, ?_⟩
      · have hdot := List.head?_dropWhile_not (p := (· ≠ '.')) (l := cs)
        rw [hrest] at hdot
        obtain rfl : dot = '.' := by simpa using hdot
        rw [String.toList_ofList, String.toList_ofList, ← hrest, hsplit]
      · simpa using hne
  · rintro ⟨major, minor, rfl, hmajor, hminor, hne⟩
    have hdot : ('.' :: minor.toList).takeWhile (· ≠ '.') = [] := rfl
    have hhead := ne_dot_of_mem_numeral hmajor
    rw [ofNumbers?, Text.takeWhile_run hhead hdot, Text.dropWhile_run hhead hdot,
      Text.uint8?_eq_some_iff.2 hmajor]
    simp only [Text.uint8?_eq_some_iff.2 hminor, Option.bind_eq_bind, Option.bind_some]
    obtain ⟨major, minor⟩ := v
    exact if_neg fun h => hne (mk.injEq .. ▸ h)

/-! ## The prefix -/

theorem toList_tag (h : IsTag tag) :
    tag.toList = [] ∨ ∃ k l, tag.toList = [k, l, '/'] ∧ k.toUpper = 'K' ∧ l.toUpper = 'L' := by
  rcases h with rfl | h
  · exact .inl rfl
  · have hlist : tag.toList.map Char.toUpper = ['K', 'L', '/'] := by
      rw [← String.toList_ofList (l := tag.toList.map Char.toUpper)]
      exact congrArg String.toList h
    obtain ⟨k, rest, hk, hkK, hrest⟩ := List.map_eq_cons_iff.1 hlist
    obtain ⟨l, rest, rfl, hlL, hrest⟩ := List.map_eq_cons_iff.1 hrest
    obtain ⟨slash, rest, rfl, hslash, hnil⟩ := List.map_eq_cons_iff.1 hrest
    obtain rfl := List.map_eq_nil_iff.1 hnil
    have hsame : slash = '/' := by
      apply Char.toNat_inj.1
      have hvalue := congrArg Char.toNat hslash
      rw [Text.toNat_toUpper] at hvalue
      have hcode : '/'.toNat = 47 := rfl
      split at hvalue
      · omega
      · exact hvalue
    exact .inr ⟨k, l, by rw [hk, hsame], hkK, hlL⟩

/-- A numeral does not begin like the prefix. -/
theorem dropTag_numeral (h : UnsignedNumeral s n) (rest : List Char) :
    dropTag (s.toList ++ rest) = s.toList ++ rest := by
  obtain ⟨c, cs, hs, hc, -⟩ := h.exists_toList
  have hK : c.toUpper ≠ 'K' := by
    intro hK
    rcases hc with rfl | hc
    · cases hK
    · simp only [Char.isDigit, Bool.and_eq_true, decide_eq_true_eq, UInt32.le_iff_toNat_le] at hc
      have hnine : c.toNat ≤ 57 := hc.2
      have hvalue : c.toUpper.toNat = 75 := congrArg Char.toNat hK
      rw [Text.toNat_toUpper] at hvalue
      split at hvalue <;> omega
  rw [hs, List.cons_append]
  unfold dropTag
  split
  next k l rest' heq =>
    obtain ⟨rfl, -⟩ := List.cons.inj heq
    rw [if_neg fun hkl => hK hkl.1, heq]
  next => rfl

theorem dropTag_append (htag : IsTag tag) (h : UnsignedNumeral s n) (rest : List Char) :
    dropTag (tag.toList ++ (s.toList ++ rest)) = s.toList ++ rest := by
  rcases toList_tag htag with hnil | ⟨k, l, hkl, hk, hl⟩
  · rw [hnil]
    exact dropTag_numeral h rest
  · rw [hkl]
    exact if_pos ⟨hk, hl⟩

theorem exists_tag (cs : List Char) :
    ∃ tag : String, IsTag tag ∧ cs = tag.toList ++ dropTag cs := by
  unfold dropTag
  split
  next k l rest =>
    split_ifs with hkl
    · refine ⟨String.ofList [k, l, '/'], .inr ?_, by simp⟩
      simp only [Text.upper, String.toList_ofList, List.map_cons, List.map_nil, hkl.1, hkl.2]
      rfl
    · exact ⟨"", .inl rfl, rfl⟩
  next => exact ⟨"", .inl rfl, rfl⟩

/-! ## Reading -/

/-- **Exactly the texts of a version are read as it.** -/
theorem parse?_eq_some_iff : parse? s = some v ↔ VersionText s v := by
  rw [parse?, ofNumbers?_eq_some_iff]
  constructor
  · rintro ⟨major, minor, hcs, hmajor, hminor, hne⟩
    obtain ⟨tag, htag, hs⟩ := exists_tag s.toList
    rw [hcs] at hs
    obtain rfl : s = tag ++ major ++ "." ++ minor := by
      rw [← String.toList_inj, hs]
      simp
    exact .mk htag hmajor hminor hne
  · rintro ⟨htag, hmajor, hminor, hne⟩
    refine ⟨_, _, ?_, hmajor, hminor, hne⟩
    have hlist (tag major minor : String) : (tag ++ major ++ "." ++ minor).toList =
        tag.toList ++ (major.toList ++ '.' :: minor.toList) := by simp
    rw [hlist, dropTag_append htag hmajor]

/-- A version text without its prefix. -/
def numbers (v : Version) : String :=
  toString v.major.toNat ++ "." ++ toString v.minor.toNat

theorem text_eq (v : Version) : v.text = "KL/" ++ v.numbers := by
  simp only [text, numbers, String.append_assoc]

/-- A version is written by its numbers, after any prefix or none. -/
theorem versionText_numbers (htag : IsTag tag) (h : v ≠ ⟨0, 0⟩) :
    VersionText (tag ++ v.numbers) v := by
  rw [numbers, ← String.append_assoc, ← String.append_assoc]
  exact .mk htag (.digits (Text.numeral_toString _)) (.digits (Text.numeral_toString _)) h

/-- A version reads back from its text, unless it is the one that is refused. -/
theorem parse?_text (v : Version) : parse? v.text = if v = ⟨0, 0⟩ then none else some v := by
  split_ifs with h
  · subst h
    rfl
  · rw [text_eq]
    exact parse?_eq_some_iff.2 (versionText_numbers (.inr rfl) h)

theorem ne_zero_of_parse? (h : parse? s = some v) : v ≠ ⟨0, 0⟩ := by
  obtain ⟨-, -, -, hne⟩ := parse?_eq_some_iff.1 h
  exact hne

end LightHub.Version
