/-
  Texts without the blanks around them.

  * `Bare`: no blank at either end.
  * `trim_eq_iff`: **a text is its bare part and the blanks around it.**
  * `trim_gaps`, `lower_trim`: neither more blanks nor the letter case make a difference
    to what is bare.
-/
import LightHub.Proofs.Text.Ends
import LightHub.Proofs.Text.Spread
import Mathlib.Data.List.TakeWhile

namespace LightHub.Text

variable {lead s t trail : String}

/-! ## Trimming -/

/-- No blank stands at either end. -/
structure Bare (t : String) : Prop where
  head : ∀ c ∈ t.toList.head?, isBlank c = false
  last : ∀ c ∈ t.toList.getLast?, isBlank c = false

/-- Blanks around a text are dropped. -/
theorem trim_gaps (hlead : IsGap lead) (htrail : IsGap trail) (s : String) :
    trim (lead ++ s ++ trail) = trim s := by
  unfold trim
  rw [String.append_assoc, String.toList_append, List.dropWhile_append_of_pos hlead,
    String.toList_append, List.dropWhile_append]
  split
  · rename_i hs
    -- the whole text is blank
    have htrailing : trail.toList.dropWhile isBlank = [] := List.dropWhile_eq_nil_iff.2 htrail
    rw [htrailing, List.isEmpty_iff.1 hs]
  · rw [dropEnd_append_of_forall htrail]

/-- No blank is dropped if the first character is none. -/
theorem dropWhile_eq_self {cs : List Char} (h : ∀ c ∈ cs.head?, isBlank c = false) :
    cs.dropWhile isBlank = cs := by
  cases cs with
  | nil => rfl
  | cons c cs => rw [List.dropWhile_cons_of_neg (Bool.eq_false_iff.1 (h c rfl))]

theorem trim_eq_self (h : Bare s) : trim s = s := by
  rw [trim, dropWhile_eq_self h.head, dropEnd_eq_self h.last, String.ofList_toList]

/-- Every text is a bare one with blanks around it. -/
theorem exists_gaps (s : String) :
    ∃ lead trail, IsGap lead ∧ IsGap trail ∧ s = lead ++ trim s ++ trail ∧ Bare (trim s) := by
  obtain ⟨ys, hrest, hys⟩ := exists_append_of_dropEnd isBlank (s.toList.dropWhile isBlank)
  have htrim : (trim s).toList = dropEnd isBlank (s.toList.dropWhile isBlank) := by
    rw [trim, String.toList_ofList]
  rw [← htrim] at hrest
  refine ⟨String.ofList (s.toList.takeWhile isBlank), String.ofList ys, ?_, ?_, ?_, ?_, ?_⟩
  · intro c hc
    rw [String.toList_ofList] at hc
    exact List.mem_takeWhile_imp hc
  · rwa [IsGap, String.toList_ofList]
  · rw [← String.toList_inj, String.toList_append, String.toList_append, String.toList_ofList,
      String.toList_ofList, List.append_assoc, ← hrest, List.takeWhile_append_dropWhile]
  · intro c hc
    have hfirst : c ∈ (s.toList.dropWhile isBlank).head? := by
      rw [hrest, List.head?_append, Option.mem_def.1 hc]
      rfl
    have hkept := List.head?_dropWhile_not isBlank s.toList
    rw [Option.mem_def.1 hfirst] at hkept
    simpa using hkept
  · rw [htrim]
    exact getLast?_dropEnd isBlank _

/-- **A text is its bare part and the blanks around it.** -/
theorem trim_eq_iff :
    trim s = t ↔
      ∃ lead trail, IsGap lead ∧ IsGap trail ∧ s = lead ++ t ++ trail ∧ Bare t := by
  constructor
  · rintro rfl
    exact exists_gaps s
  · rintro ⟨lead, trail, hlead, htrail, rfl, ht⟩
    rw [trim_gaps hlead htrail, trim_eq_self ht]

/-! ## Letter case -/

theorem toNat_toLower (c : Char) :
    c.toLower.toNat = if 65 ≤ c.toNat ∧ c.toNat ≤ 90 then c.toNat + 32 else c.toNat := by
  by_cases h : 'A'.val ≤ c.val ∧ c.val ≤ 'Z'.val
  · have hlo : 65 ≤ c.val.toNat := UInt32.le_iff_toNat_le.1 h.1
    have hhi : c.val.toNat ≤ 90 := UInt32.le_iff_toNat_le.1 h.2
    have hgap : ('a'.val - 'A'.val).toNat = 32 := rfl
    delta Char.toLower
    rw [dif_pos h, if_pos ⟨hlo, hhi⟩]
    change (c.val + ('a'.val - 'A'.val)).toNat = c.val.toNat + 32
    rw [UInt32.toNat_add]
    omega
  · delta Char.toLower
    rw [dif_neg h, if_neg]
    rintro ⟨hlo, hhi⟩
    exact h ⟨UInt32.le_iff_toNat_le.2 hlo, UInt32.le_iff_toNat_le.2 hhi⟩

theorem isBlank_toLower (c : Char) : isBlank c.toLower = isBlank c := by
  unfold isBlank
  rw [toNat_toLower]
  split
  · grind
  · rfl

theorem toList_lower (s : String) : (lower s).toList = s.toList.map Char.toLower :=
  String.toList_ofList

theorem lower_append (s t : String) : lower (s ++ t) = lower s ++ lower t := by
  rw [← String.toList_inj]
  simp [toList_lower]

theorem IsGap.lower (h : IsGap s) : IsGap (lower s) := by
  intro c hc
  rw [toList_lower] at hc
  obtain ⟨d, hd, rfl⟩ := List.mem_map.1 hc
  rw [isBlank_toLower]
  exact h d hd

theorem Bare.lower (h : Bare s) : Bare (lower s) := by
  constructor
  · intro c hc
    rw [toList_lower, List.head?_map] at hc
    obtain ⟨d, hd, rfl⟩ := Option.map_eq_some_iff.1 hc
    rw [isBlank_toLower]
    exact h.head d hd
  · intro c hc
    rw [toList_lower, List.getLast?_map] at hc
    obtain ⟨d, hd, rfl⟩ := Option.map_eq_some_iff.1 hc
    rw [isBlank_toLower]
    exact h.last d hd

/-- Letter case makes no difference to what is bare. -/
theorem lower_trim (s : String) : lower (trim s) = trim (lower s) := by
  obtain ⟨lead, trail, hlead, htrail, hs, hbare⟩ := exists_gaps s
  refine (trim_eq_iff.2 ⟨lower lead, lower trail, hlead.lower, htrail.lower, ?_, hbare.lower⟩).symm
  rw [← lower_append, ← lower_append, ← hs]

end LightHub.Text
