/-
  Words: texts that can be put on a line and are found there again.

  * `IsWord`: a text that is not empty and holds no blank.
  * `checkToken_eq_ok_iff`: the check of an argument accepts exactly the words.
  * `wordsOf_append_blank`: a blank parts the words before it from those after it.
  * `wordsOf_word_append`: a word ends where a blank follows, or nothing.
  * `words_line`: **a line that is made of words splits into these words.**
    `words_spaced` is the same without the newline.
  * `isWord_upper`, `upper_upper`: letter case does not matter to words, and
    raising it twice is raising it once.
-/
import LightHub.Wire.Checks
import Mathlib.Tactic.SplitIfs

namespace LightHub

namespace Text

/-- A text that travels as one word. -/
def IsWord (s : String) : Prop :=
  s.toList ≠ [] ∧ ∀ c ∈ s.toList, isBlank c = false

instance (s : String) : Decidable (IsWord s) :=
  decidable_of_iff (s.toList ≠ [] ∧ s.toList.all (fun c => !isBlank c) = true) (by simp [IsWord])

/-! ## Letter case -/

theorem toNat_toUpper (c : Char) :
    c.toUpper.toNat = if 97 ≤ c.toNat ∧ c.toNat ≤ 122 then c.toNat - 32 else c.toNat := by
  by_cases h : 'a'.val ≤ c.val ∧ c.val ≤ 'z'.val
  · have hlo : 97 ≤ c.val.toNat := UInt32.le_iff_toNat_le.1 h.1
    have hhi : c.val.toNat ≤ 122 := UInt32.le_iff_toNat_le.1 h.2
    have hgap : ('A'.val - 'a'.val).toNat = 2 ^ 32 - 32 := rfl
    delta Char.toUpper
    rw [dif_pos h, if_pos ⟨hlo, hhi⟩]
    change (c.val + ('A'.val - 'a'.val)).toNat = c.val.toNat - 32
    rw [UInt32.toNat_add]
    omega
  · delta Char.toUpper
    rw [dif_neg h, if_neg]
    rintro ⟨hlo, hhi⟩
    exact h ⟨UInt32.le_iff_toNat_le.2 hlo, UInt32.le_iff_toNat_le.2 hhi⟩

theorem toUpper_toUpper (c : Char) : c.toUpper.toUpper = c.toUpper := by
  apply Char.toNat_inj.1
  simp only [toNat_toUpper]
  grind

theorem isBlank_toUpper (c : Char) : isBlank c.toUpper = isBlank c := by
  unfold isBlank
  rw [toNat_toUpper]
  split
  · grind
  · rfl

@[simp]
theorem upper_upper (s : String) : upper (upper s) = upper s := by
  rw [upper, upper, String.toList_ofList, List.map_map]
  simp only [Function.comp_def, toUpper_toUpper]

@[simp]
theorem isWord_upper {s : String} : IsWord (upper s) ↔ IsWord s := by
  simp [IsWord, upper, isBlank_toUpper]

/-! ## Blanks between words -/

theorem wordsOf_ne_nil {c : Char} (h : isBlank c = false) (cs : List Char) :
    wordsOf (c :: cs) ≠ [] := by
  cases cs with
  | nil => simp [wordsOf, h]
  | cons d cs =>
    simp only [wordsOf, h, Bool.false_eq_true, if_false]
    split
    · exact List.cons_ne_nil _ _
    · unfold attach
      split <;> exact List.cons_ne_nil _ _

theorem attach_append {c : Char} {ws : List (List Char)} (h : ws ≠ []) (vs : List (List Char)) :
    attach c (ws ++ vs) = attach c ws ++ vs := by
  cases ws with
  | nil => exact absurd rfl h
  | cons w ws => rfl

/-- A blank parts the words before it from the words after it. -/
theorem wordsOf_append_blank {b : Char} (hb : isBlank b = true) (xs ys : List Char) :
    wordsOf (xs ++ b :: ys) = wordsOf xs ++ wordsOf ys := by
  induction xs with
  | nil => exact wordsOf_cons_blank hb ys
  | cons c cs ih =>
    cases cs with
    | nil => cases hc : isBlank c <;> simp [wordsOf, hc, hb]
    | cons d cs =>
      have hcons (xs : List Char) : wordsOf (c :: d :: xs) =
          if isBlank c then wordsOf (d :: xs)
          else if isBlank d then [c] :: wordsOf (d :: xs) else attach c (wordsOf (d :: xs)) := rfl
      rw [List.cons_append] at ih
      rw [List.cons_append, List.cons_append, hcons, hcons, ih]
      split
      · rfl
      · split
        · rfl
        · rename_i hd
          exact attach_append (wordsOf_ne_nil (Bool.eq_false_iff.2 hd) cs) _

/-- Blanks at the end of a text make no difference. -/
theorem wordsOf_append_blanks {bs : List Char} (h : ∀ b ∈ bs, isBlank b = true) (xs : List Char) :
    wordsOf (xs ++ bs) = wordsOf xs := by
  induction bs generalizing xs with
  | nil => rw [List.append_nil]
  | cons b bs ih =>
    have hbs := ih fun c hc => h c (List.mem_cons_of_mem b hc)
    have hnone : wordsOf bs = [] := hbs []
    rw [wordsOf_append_blank (h b List.mem_cons_self), hnone, List.append_nil]

/-- Blanks in front of a text make no difference. -/
theorem wordsOf_blanks_append {bs : List Char} (h : ∀ b ∈ bs, isBlank b = true)
    (xs : List Char) : wordsOf (bs ++ xs) = wordsOf xs := by
  induction bs with
  | nil => rfl
  | cons b bs ih =>
    rw [List.cons_append, wordsOf_cons_blank (h b List.mem_cons_self)]
    exact ih fun c hc => h c (List.mem_cons_of_mem b hc)

/-- A word ends where a blank follows, or nothing. -/
theorem wordsOf_word_append {w : String} (hw : IsWord w) {rest : List Char}
    (hrest : ∀ b ∈ rest.head?, isBlank b = true) :
    wordsOf (w.toList ++ rest) = w.toList :: wordsOf rest := by
  cases rest with
  | nil => rw [List.append_nil, wordsOf_word hw.1 hw.2]; rfl
  | cons b rest =>
    have hb : isBlank b = true := hrest b rfl
    rw [wordsOf_word_blank hb rest hw.1 hw.2, wordsOf_cons_blank hb]

/-! ## Lines of words -/

theorem wordsOf_spaced : ∀ {ws : List String}, (∀ w ∈ ws, IsWord w) →
    wordsOf ((Command.spaced ws).toList ++ ['\n']) = ws.map String.toList
  | [], _ => rfl
  | w :: ws, h => by
    have ih := wordsOf_spaced fun x hx => h x (List.mem_cons_of_mem w hx)
    -- what follows a word starts with the space of the next word, or with the newline
    have hnext : ∀ b ∈ ((Command.spaced ws).toList ++ ['\n']).head?, isBlank b = true := by
      cases ws with
      | nil => simp [Command.spaced]; rfl
      | cons x xs => simp [Command.spaced]; rfl
    have hline : (Command.spaced (w :: ws)).toList ++ ['\n'] =
        ' ' :: (w.toList ++ ((Command.spaced ws).toList ++ ['\n'])) := by
      simp [Command.spaced]
    rw [hline, wordsOf_cons_blank rfl, wordsOf_word_append (h w List.mem_cons_self) hnext, ih,
      List.map_cons]

/-- **A line that is made of words splits into these words.** -/
theorem words_line {w : String} {ws : List String} (hw : IsWord w) (hws : ∀ x ∈ ws, IsWord x) :
    words (w ++ Command.spaced ws ++ "\n") = w :: ws := by
  have h : ∀ x ∈ w :: ws, IsWord x := List.forall_mem_cons.2 ⟨hw, hws⟩
  have hline : (Command.spaced (w :: ws)).toList ++ ['\n'] =
      ' ' :: (w ++ Command.spaced ws ++ "\n").toList := by
    simp [Command.spaced]
  rw [words, ← wordsOf_cons_blank (c := ' ') rfl, ← hline, wordsOf_spaced h]
  simp [Function.comp_def]

/-- Without its newline the line splits into the same words. -/
theorem words_spaced {w : String} {ws : List String} (hw : IsWord w) (hws : ∀ x ∈ ws, IsWord x) :
    words (w ++ Command.spaced ws) = w :: ws := by
  have hline := words_line hw hws
  rw [words, String.toList_append] at hline
  rw [words, ← hline]
  exact congrArg _ (wordsOf_append_blanks (List.forall_mem_singleton.2 rfl) _).symm

theorem IsWord.newline_notMem {w : String} (h : IsWord w) : '\n' ∉ w.toList := by
  intro hmem
  exact absurd (h.2 '\n' hmem) (by decide)

theorem newline_notMem_spaced : ∀ {ws : List String}, (∀ w ∈ ws, IsWord w) →
    '\n' ∉ (Command.spaced ws).toList
  | [], _ => List.not_mem_nil
  | w :: ws, h => by
    have hw := (h w List.mem_cons_self).newline_notMem
    have ih := newline_notMem_spaced fun x hx => h x (List.mem_cons_of_mem w hx)
    simp [Command.spaced, hw, ih]

/-- The last character of a line of words is the last one of a word. -/
theorem isBlank_of_getLast?_spaced {w : String} {ws : List String} (hw : IsWord w)
    (hws : ∀ x ∈ ws, IsWord x) :
    ∀ c ∈ (w ++ Command.spaced ws).toList.getLast?, isBlank c = false := by
  induction ws generalizing w with
  | nil =>
    intro c hc
    rw [Command.spaced, String.append_empty] at hc
    exact hw.2 c (List.mem_of_getLast? hc)
  | cons x xs ih =>
    have hx := hws x List.mem_cons_self
    have hne : (x ++ Command.spaced xs).toList ≠ [] := by simp [hx.1]
    have htail := ih hx fun y hy => hws y (List.mem_cons_of_mem x hy)
    have hline : (w ++ Command.spaced (x :: xs)).toList =
        (w ++ " ").toList ++ (x ++ Command.spaced xs).toList := by
      simp [Command.spaced]
    rw [List.getLast?_eq_some_getLast hne] at htail
    rwa [hline, List.getLast?_append, List.getLast?_eq_some_getLast hne, Option.some_or]

end Text

/-! ## Checks -/

open Text (IsWord)

theorem checkToken_eq_ok_iff {what : Argument} {value : String} :
    checkToken what value = .ok () ↔ IsWord value := by
  unfold checkToken IsWord
  split_ifs with h₁ h₂
  · simp [h₁]
  · obtain ⟨c, hc, hb⟩ := List.any_eq_true.1 h₂
    simp only [false_iff, not_and]
    exact fun _ h => by simp [h c hc] at hb
  · simpa [h₁] using h₂

theorem checkPulse_eq_ok_iff {pulse : UInt32} : checkPulse pulse = .ok () ↔ pulse ≠ 0 := by
  unfold checkPulse
  split_ifs with h <;> simp [h]

/-- An optional argument fits if it is there exactly when it has to be, and is a
    word then. -/
theorem checkOptional_eq_ok_iff {needed : Bool} {what : Argument} {missing unwanted : UsageFault}
    {value : Option String} :
    checkOptional needed what missing unwanted value = .ok () ↔
      value.isSome = needed ∧ ∀ w ∈ value, IsWord w := by
  cases needed <;> cases value <;> simp [checkOptional, checkToken_eq_ok_iff]

instance decidableEqExcept {ε α : Type} [DecidableEq ε] [DecidableEq α] : DecidableEq (Except ε α)
  | .ok a, .ok b => decidable_of_iff (a = b) ⟨congrArg Except.ok, Except.ok.inj⟩
  | .error e, .error f => decidable_of_iff (e = f) ⟨congrArg Except.error, Except.error.inj⟩
  | .ok _, .error _ => isFalse nofun
  | .error _, .ok _ => isFalse nofun

/-- A computation in two parts succeeds if both do. -/
theorem bind_eq_ok_iff {ε α β : Type} {x : Except ε α} {f : α → Except ε β} {b : β} :
    x >>= f = .ok b ↔ ∃ a, x = .ok a ∧ f a = .ok b := by
  cases x <;> simp [bind, Except.bind]

theorem map_eq_ok_iff {ε α β : Type} {x : Except ε α} {f : α → β} {b : β} :
    x.map f = .ok b ↔ ∃ a, x = .ok a ∧ f a = b := by
  cases x <;> simp [Except.map]

theorem map_eq_error_iff {ε α β : Type} {x : Except ε α} {f : α → β} {e : ε} :
    x.map f = .error e ↔ x = .error e := by
  cases x <;> simp [Except.map]

/-- Two checks in a row pass if both do. -/
theorem checks_eq_ok_iff {x y : Except Fault Unit} :
    (x >>= fun _ => y) = .ok () ↔ x = .ok () ∧ y = .ok () := by
  rw [bind_eq_ok_iff]
  exact ⟨fun ⟨(), h⟩ => h, fun h => ⟨(), h⟩⟩

end LightHub
