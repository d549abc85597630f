/-
  Request lines, word by word.

  * `isLine_line`: a request line has one newline, at its end.
  * `words_line_iff`: **the check of words is exact.**  The texts of a request pass it
    exactly if the line splits into the words that were meant.
-/
import LightHub.Proofs.Stream.Lines
import LightHub.Proofs.Text.Spread
import LightHub.Proofs.Wire.Checks

namespace LightHub.Command

open Text (IsWord)

variable {c : Command} {v : Version}

/-! ## One line -/

theorem isLine_quitLine : Stream.IsLine (Text.bytes quitLine) := by
  have hline : quitLine = "Q" ++ "\n" := by decide
  rw [hline]
  exact Stream.isLine_bytes (by decide)

theorem isLine_of_isWord (h : ∀ w ∈ c.args, IsWord w) (hq : c ≠ quit) :
    Stream.IsLine (Text.bytes (c.line v)) := by
  have hkeyword := c.verb.isWord_keyword.newline_notMem
  have hspaced := Text.newline_notMem_spaced (isWord_args_version v h)
  rw [line.eq_2 c v hq]
  apply Stream.isLine_bytes
  simpa using ⟨hkeyword, hspaced⟩

/-- A request line has one newline, at its end. -/
theorem isLine_line (h : c.Sendable v) : Stream.IsLine (Text.bytes (c.line v)) := by
  by_cases hq : c = quit
  · subst hq
    exact isLine_quitLine
  · exact isLine_of_isWord (isWord_args h.fits) hq

/-! ## The words that were meant -/

/-- Whatever a line splits into is a word, so the arguments are words if the line splits
    into them. -/
theorem words_line_iff_isWord (hq : c ≠ quit) :
    Text.words (c.line v) = c.verb.keyword :: (c.args ++ [v.text]) ↔ ∀ w ∈ c.args, IsWord w := by
  refine ⟨fun h w hw => ?_, fun h => words_line_of_isWord v h hq⟩
  have hmem : w ∈ Text.words (c.line v) := by
    rw [h]
    exact List.mem_cons_of_mem _ (List.mem_append_left _ hw)
  exact Text.isWord_of_mem_words hmem

theorem checkToken_texts_iff :
    (∀ a ∈ c.texts, checkToken a.1 a.2 = .ok ()) ↔ ∀ w ∈ c.args, IsWord w := by
  simp only [checkToken_eq_ok_iff, isWord_args_iff]

/-- **The check of words is exact.**  The texts of a request pass it exactly if the line
    splits into the words that were meant, and then it is one line.  A request that
    fits has such a line; one that is refused over a word has not. -/
theorem words_line_iff (v : Version) (hq : c ≠ quit) :
    ((∀ a ∈ c.texts, checkToken a.1 a.2 = .ok ()) ↔
        Text.words (c.line v) = c.verb.keyword :: (c.args ++ [v.text])) ∧
      ((∀ a ∈ c.texts, checkToken a.1 a.2 = .ok ()) →
        Stream.IsLine (Text.bytes (c.line v))) ∧
      (c.validate = .ok () → ∀ a ∈ c.texts, checkToken a.1 a.2 = .ok ()) ∧
      ∀ cause, c.validate = .error (.usage cause) → cause.OverWord →
        ∃ a ∈ c.texts, checkToken a.1 a.2 = .error (.usage cause) := by
  refine ⟨?_, ?_, ?_, ?_⟩
  · rw [checkToken_texts_iff]
    exact (words_line_iff_isWord hq).symm
  · rw [checkToken_texts_iff]
    exact fun h => isLine_of_isWord h hq
  · rw [checkToken_texts_iff]
    exact isWord_args
  · intro cause h hword
    obtain ⟨_, ⟨⟩, hmisfit⟩ := faultsIn_validate c _ h
    exact hmisfit hword

/-- An empty topic does not make up for a message of two words. -/
theorem words_line_iff_transmit :
    let c := transmit "" "a b"
    c ≠ quit ∧ Text.words (c.line .current) = ["TRANSMIT", "a", "b", "KL/0.3"] ∧
      Text.words (c.line .current) ≠ c.verb.keyword :: (c.args ++ [Version.current.text]) := by
  intro c
  refine ⟨nofun, by decide, fun h => ?_⟩
  have hpass := (words_line_iff .current (c := c) nofun).1.2 h
  exact absurd (hpass (.topic, "") List.mem_cons_self) (by decide)

end LightHub.Command
