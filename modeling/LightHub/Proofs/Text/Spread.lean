/-
  Texts, as words with blanks between them.

  * `spread`: words, each with the blanks after it; `Apart`: there is a blank
    between any two of them.
  * `words_spread`: **words that are apart are found again, whatever the blanks
    between them**; `exists_spread`: every text is made of such words.
  * `words_eq_iff`: so it is known what the words of a text are.
  * `words_intercalate`: words with single spaces between them.
-/
import LightHub.Proofs.Text.Word

namespace LightHub.Text

/-! ## Gaps -/

/-- Blanks, perhaps none. -/
def IsGap (s : String) : Prop :=
  ∀ c ∈ s.toList, isBlank c = true

instance (s : String) : Decidable (IsGap s) :=
  inferInstanceAs (Decidable (∀ c ∈ s.toList, isBlank c = true))

theorem isGap_empty : IsGap "" := nofun

theorem IsGap.cons {c : Char} {gap : String} (hc : isBlank c = true) (h : IsGap gap) :
    IsGap (String.singleton c ++ gap) := by
  simpa [IsGap] using ⟨hc, h⟩

/-! ## Words with gaps between them -/

/-- The gap `lead`, and words with their gaps after them. -/
def spread (lead : String) : List (String × String) → String
  | [] => lead
  | (w, gap) :: parts => lead ++ w ++ spread gap parts

/-- Words with gaps around them, of which only the first and the last may be
    empty. -/
structure Apart (lead : String) (parts : List (String × String)) : Prop where
  lead : IsGap lead
  word : ∀ p ∈ parts, IsWord p.1
  gap : ∀ p ∈ parts, IsGap p.2
  between : ∀ p ∈ parts.dropLast, p.2 ≠ ""

instance (lead : String) (parts : List (String × String)) : Decidable (Apart lead parts) :=
  decidable_of_iff (IsGap lead ∧ (∀ p ∈ parts, IsWord p.1) ∧ (∀ p ∈ parts, IsGap p.2) ∧
    ∀ p ∈ parts.dropLast, p.2 ≠ "")
    ⟨fun h => ⟨h.1, h.2.1, h.2.2.1, h.2.2.2⟩, fun h => ⟨h.1, h.2, h.3, h.4⟩⟩

variable {lead gap w : String} {parts : List (String × String)}

theorem apart_nil (h : IsGap lead) : Apart lead [] :=
  ⟨h, nofun, nofun, nofun⟩

theorem Apart.cons (hlead : IsGap lead) (hw : IsWord w) (h : Apart gap parts)
    (hgap : parts ≠ [] → gap ≠ "") : Apart lead ((w, gap) :: parts) := by
  refine ⟨hlead, List.forall_mem_cons.2 ⟨hw, h.word⟩, List.forall_mem_cons.2 ⟨h.lead, h.gap⟩, ?_⟩
  cases parts with
  | nil => exact nofun
  | cons p parts =>
    rw [List.dropLast_cons_of_ne_nil (List.cons_ne_nil p parts)]
    exact List.forall_mem_cons.2 ⟨hgap (List.cons_ne_nil p parts), h.between⟩

/-- Words without the first of them. -/
theorem Apart.tail (h : Apart lead ((w, gap) :: parts)) :
    Apart gap parts ∧ (parts ≠ [] → gap ≠ "") := by
  obtain ⟨-, hword, hgap, hbetween⟩ := h
  refine ⟨⟨hgap _ List.mem_cons_self, fun p hp => hword p (List.mem_cons_of_mem _ hp),
    fun p hp => hgap p (List.mem_cons_of_mem _ hp), ?_⟩, ?_⟩
  · cases parts with
    | nil => exact nofun
    | cons p parts => exact fun q hq => hbetween q (List.mem_cons_of_mem _ hq)
  · intro hne
    rw [List.dropLast_cons_of_ne_nil hne] at hbetween
    exact hbetween _ List.mem_cons_self

/-- What follows a word starts with a blank. -/
theorem isBlank_head?_spread (h : Apart gap parts) (hgap : parts ≠ [] → gap ≠ "") :
    ∀ b ∈ (spread gap parts).toList.head?, isBlank b = true := by
  intro b hb
  refine h.lead b (List.mem_of_mem_head? ?_)
  cases parts with
  | nil => exact hb
  | cons p parts =>
    have hne : gap.toList ≠ [] := by simpa using hgap (List.cons_ne_nil p parts)
    rw [spread, String.append_assoc, String.toList_append, List.head?_append,
      List.head?_eq_some_head hne, Option.some_or] at hb
    rwa [List.head?_eq_some_head hne]

/-- **Words that are apart are found again**, whatever the blanks between them. -/
theorem words_spread (h : Apart lead parts) : words (spread lead parts) = parts.map Prod.fst := by
  induction parts generalizing lead with
  | nil =>
    have hnone : wordsOf lead.toList = [] := wordsOf_append_blanks h.lead []
    rw [spread, words, hnone]
    rfl
  | cons p parts ih =>
    obtain ⟨w, gap⟩ := p
    obtain ⟨htail, hgap⟩ := h.tail
    have hw : IsWord w := h.word _ List.mem_cons_self
    have hrest := isBlank_head?_spread htail hgap
    rw [words, spread, String.append_assoc, String.toList_append, wordsOf_blanks_append h.lead,
      String.toList_append, wordsOf_word_append hw hrest, List.map_cons, String.ofList_toList,
      List.map_cons, ← ih htail, words]

theorem spread_append (c : Char) (lead : String) (parts : List (String × String)) :
    spread (String.singleton c ++ lead) parts = String.singleton c ++ spread lead parts := by
  cases parts with
  | nil => rfl
  | cons p parts => simp only [spread, String.append_assoc]

/-- Every text is made of words that are apart. -/
theorem exists_spread (cs : List Char) :
    ∃ lead parts, Apart lead parts ∧ String.ofList cs = spread lead parts := by
  induction cs with
  | nil => exact ⟨"", [], apart_nil isGap_empty, rfl⟩
  | cons c cs ih =>
    obtain ⟨lead, parts, h, hcs⟩ := ih
    have hcons : String.ofList (c :: cs) = String.singleton c ++ spread lead parts := by
      rw [← hcs, ← String.toList_inj]
      simp
    cases hc : isBlank c with
    | true =>
      refine ⟨String.singleton c ++ lead, parts, ⟨h.lead.cons hc, h.word, h.gap, h.between⟩, ?_⟩
      rw [hcons, spread_append]
    | false =>
      -- the character is a word of its own, unless a word follows at once
      have hone : IsWord (String.singleton c) := by simpa [IsWord] using hc
      by_cases hlead : parts ≠ [] → lead ≠ ""
      · refine ⟨"", (String.singleton c, lead) :: parts, .cons isGap_empty hone h hlead, ?_⟩
        rw [hcons, spread, String.empty_append]
      · obtain ⟨hne, rfl⟩ : parts ≠ [] ∧ lead = "" := by simpa using hlead
        obtain ⟨⟨w, gap⟩, parts, rfl⟩ := List.exists_cons_of_ne_nil hne
        obtain ⟨htail, hgap⟩ := h.tail
        have hw : IsWord w := h.word _ List.mem_cons_self
        have hlonger : IsWord (String.singleton c ++ w) := by
          simpa [IsWord] using ⟨hc, hw.2⟩
        refine ⟨"", (String.singleton c ++ w, gap) :: parts,
          .cons isGap_empty hlonger htail hgap, ?_⟩
        rw [hcons, spread, spread, String.empty_append, String.empty_append, String.append_assoc]

/-- The words of a text are those that it spreads out. -/
theorem words_eq_iff {s : String} {ws : List String} :
    words s = ws ↔
      ∃ lead parts, Apart lead parts ∧ s = spread lead parts ∧ parts.map Prod.fst = ws := by
  constructor
  · rintro rfl
    obtain ⟨lead, parts, h, hs⟩ := exists_spread s.toList
    rw [String.ofList_toList] at hs
    exact ⟨lead, parts, h, hs, by rw [hs, words_spread h]⟩
  · rintro ⟨lead, parts, h, rfl, rfl⟩
    exact words_spread h

/-- What a text is split into are words. -/
theorem isWord_of_mem_words {s w : String} (h : w ∈ words s) : IsWord w := by
  obtain ⟨lead, parts, hparts, -, hwords⟩ := words_eq_iff.1 (rfl : words s = words s)
  rw [← hwords] at h
  obtain ⟨p, hp, rfl⟩ := List.mem_map.1 h
  exact hparts.word p hp

/-! ## Single spaces -/

theorem words_space (s t : String) : words (s ++ " " ++ t) = words s ++ words t := by
  have hlist : (s ++ " " ++ t).toList = s.toList ++ ' ' :: t.toList := by simp
  rw [words, hlist, wordsOf_append_blank rfl, List.map_append]
  rfl

theorem words_of_isWord (h : IsWord w) : words w = [w] := by
  rw [words, wordsOf_word h.1 h.2]
  simp

/-- A line of words, by the words with single spaces between them. -/
theorem intercalate_cons_eq_spaced (w : String) (ws : List String) :
    " ".intercalate (w :: ws) = w ++ Command.spaced ws := by
  induction ws generalizing w with
  | nil => simp [Command.spaced]
  | cons x xs ih =>
    rw [String.intercalate_cons_cons, ih, Command.spaced]
    simp only [String.append_assoc]

theorem words_intercalate {ws : List String} (h : ∀ w ∈ ws, IsWord w) :
    words (" ".intercalate ws) = ws := by
  cases ws with
  | nil => rfl
  | cons w ws =>
    obtain ⟨hw, hws⟩ := List.forall_mem_cons.1 h
    rw [intercalate_cons_eq_spaced, words_spaced hw hws]

end LightHub.Text
