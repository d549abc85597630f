/-
  Ends of lists, and what is left when they are dropped.

  * `dropEnd_append_of_forall`, `dropEnd_eq_self`: what is dropped at the end of a
    list, and what is kept.
  * `dropEnd_eq_iff`: **a list is what is kept and an end to be dropped**, and what is
    kept does not end in anything to be dropped.
-/
import LightHub.Text.Blank

namespace LightHub.Text

variable {α : Type} {p : α → Bool}

theorem dropEnd_eq_nil {ys : List α} (h : ∀ y ∈ ys, p y = true) : dropEnd p ys = [] := by
  induction ys with
  | nil => rfl
  | cons y ys ih =>
    have hys := ih fun z hz => h z (List.mem_cons_of_mem y hz)
    simp [dropEnd, hys, h y List.mem_cons_self]

/-- A suffix that is to be dropped makes no difference. -/
theorem dropEnd_append_of_forall {ys : List α} (h : ∀ y ∈ ys, p y = true) (xs : List α) :
    dropEnd p (xs ++ ys) = dropEnd p xs := by
  induction xs with
  | nil => exact dropEnd_eq_nil h
  | cons x xs ih => rw [List.cons_append, dropEnd, ih, dropEnd]

/-- Nothing is dropped if the last element is to be kept. -/
theorem dropEnd_eq_self {xs : List α} (h : ∀ x ∈ xs.getLast?, p x = false) :
    dropEnd p xs = xs := by
  induction xs with
  | nil => rfl
  | cons x xs ih =>
    cases xs with
    | nil => simp [dropEnd, h x rfl]
    | cons y ys =>
      have hys := ih fun z hz => h z (by simpa using hz)
      rw [dropEnd, hys]

/-- Nothing but an end of elements to be dropped is lost. -/
theorem exists_append_of_dropEnd (p : α → Bool) (xs : List α) :
    ∃ ys, xs = dropEnd p xs ++ ys ∧ ∀ y ∈ ys, p y = true := by
  induction xs with
  | nil => exact ⟨[], rfl, List.forall_mem_nil _⟩
  | cons x xs ih =>
    obtain ⟨ys, hxs, hys⟩ := ih
    cases hkept : dropEnd p xs with
    | nil =>
      rw [hkept, List.nil_append] at hxs
      cases hx : p x with
      | true => exact ⟨x :: xs, by simp [dropEnd, hkept, hx], by simpa [hx, hxs] using hys⟩
      | false => exact ⟨xs, by simp [dropEnd, hkept, hx], hxs ▸ hys⟩
    | cons k kept =>
      rw [hkept] at hxs
      exact ⟨ys, by simp [dropEnd, hkept, ← hxs], hys⟩

/-- What is kept does not end in an element to be dropped. -/
theorem getLast?_dropEnd (p : α → Bool) (xs : List α) :
    ∀ x ∈ (dropEnd p xs).getLast?, p x = false := by
  induction xs with
  | nil => exact nofun
  | cons x xs ih =>
    cases hkept : dropEnd p xs with
    | nil => cases hx : p x <;> simp [dropEnd, hkept, hx]
    | cons k kept =>
      rw [hkept] at ih
      simpa [dropEnd, hkept] using ih

/-- **A list is what is kept and an end to be dropped.** -/
theorem dropEnd_eq_iff {xs kept : List α} :
    dropEnd p xs = kept ↔ ∃ ys, xs = kept ++ ys ∧ (∀ y ∈ ys, p y = true) ∧
      ∀ x ∈ kept.getLast?, p x = false := by
  constructor
  · rintro rfl
    obtain ⟨ys, hxs, hys⟩ := exists_append_of_dropEnd p xs
    exact ⟨ys, hxs, hys, getLast?_dropEnd p xs⟩
  · rintro ⟨ys, rfl, hys, hlast⟩
    rw [dropEnd_append_of_forall hys, dropEnd_eq_self hlast]

end LightHub.Text
