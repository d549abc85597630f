/-
  How often a session says quit.

  * `line_eq_quitLine_iff`: only the quit request reads as the quit line.
  * `count_quit`: the quit requests of a script are its operations that ask for
    one.
  * `quit_once_iff`: **a session says quit once exactly if no operation does.**
    What an operation sends does not count as the end of the session.
-/
import LightHub.Proofs.Session.Transcript

namespace LightHub

/-! ## Quit lines -/

namespace Command

theorem folded_eq_quit_iff {c : Command} : c.folded = quit ↔ c = quit := by
  cases c <;> simp [folded]

theorem line_eq_quitLine_iff {c : Command} {v : Version} (h : c.Sendable v) :
    Text.bytes (c.line v) = Text.bytes quitLine ↔ c = quit := by
  constructor
  · intro heq
    have hline : c.line v = quit.line v := Text.bytes_injective heq
    rcases eq_of_line_eq h (sendable_quit v) hline with ⟨hc, -⟩ | ⟨-, hfolded⟩
    · exact hc
    · exact folded_eq_quit_iff.1 hfolded
  · rintro rfl
    rfl

end Command

/-! ## Operations -/

namespace Operation

theorem asked?_eq_quit_iff {op : Operation} :
    op.asked? = some [.quit] ↔
      op = .send .quit ∨ op = .request .quit ∨ op = .execute .quit := by
  cases op <;> simp [asked?]

theorem count_quit_of_asked {op : Operation} {asked : List Command}
    (h : op.asked? = some asked) :
    asked.count .quit = if op.asked? = some [.quit] then 1 else 0 := by
  cases op <;> cases h <;> simp [asked?, List.count_singleton]

/-- An operation says quit once if it asks for nothing else, and never if it
    asks for something else. -/
theorem Asks.count_quit {op : Operation} {v : Version} {cs : List Command} (h : op.Asks v cs) :
    cs.count .quit = if op.asked? = some [.quit] then 1 else 0 := by
  cases h with
  | requests hasked =>
    rw [sent, List.count_filter (by simpa using Command.sendable_quit v),
      count_quit_of_asked hasked]
  | learner hasked hcs =>
    obtain ⟨device, horder⟩ := hcs.order
    rw [hasked, if_neg (by simp), List.count_eq_zero]
    intro hquit
    have hmem := horder.subset hquit
    cases device <;> simp [Registration.command] at hmem

end Operation

namespace Script

theorem Asks.count_quit {v : Version} {ops : List Operation} {cs : List Command}
    (h : Asks v ops cs) :
    cs.count .quit = ops.countP fun op => op.asked? = some [.quit] := by
  induction h with
  | nil => rfl
  | cons hop _ ih =>
    rw [List.count_append, hop.count_quit, ih, List.countP_cons, Nat.add_comm]
    simp

/-- The quit lines of a session: one for each operation that asks for it, and
    one in the end. -/
theorem count_quitLine (v : Version) (peer : String) (hub : List UInt8) (ops : List Operation)
    (ending : Ending) :
    (Stream.lines (total ops ending (Session.opened v peer hub))).count
        (Text.bytes Command.quitLine) =
      (ops.countP fun op => op.asked? = some [.quit]) + 1 := by
  obtain ⟨cs, hcs, htotal⟩ := exists_transcript v peer hub ops
  have hquit : cs.countP (fun c => Text.bytes (c.line v) == Text.bytes Command.quitLine) =
      cs.count .quit := by
    refine List.countP_congr fun c hc => ?_
    rw [beq_iff_eq, beq_iff_eq, Command.line_eq_quitLine_iff (hcs.sendable c hc)]
  rw [htotal ending, lines_transcript hcs.sendable, List.count_append,
    List.count_singleton_self, List.count, List.countP_map, ← hcs.count_quit, ← hquit]
  rfl

/-- The last line of a session is a quit line. -/
theorem getLast?_quitLine (v : Version) (peer : String) (hub : List UInt8)
    (ops : List Operation) (ending : Ending) :
    (Stream.lines (total ops ending (Session.opened v peer hub))).getLast? =
      some (Text.bytes Command.quitLine) := by
  obtain ⟨cs, hcs, htotal⟩ := exists_transcript v peer hub ops
  rw [htotal ending, lines_transcript hcs.sendable, List.getLast?_concat]

/-- **A session says quit once exactly if no operation does.**  Its last line is
    the quit line in any case. -/
theorem quit_once_iff (v : Version) (peer : String) (hub : List UInt8) (ops : List Operation)
    (ending : Ending) :
    let lines := Stream.lines (total ops ending (Session.opened v peer hub))
    let quit := Text.bytes Command.quitLine
    (lines.count quit = 1 ∧ lines.getLast? = some quit) ↔
      ∀ op ∈ ops, op ≠ .send .quit ∧ op ≠ .request .quit ∧ op ≠ .execute .quit := by
  intro lines quit
  rw [and_iff_left (getLast?_quitLine v peer hub ops ending),
    count_quitLine v peer hub ops ending, Nat.add_eq_right, List.countP_eq_zero]
  simp only [decide_eq_true_eq, Operation.asked?_eq_quit_iff, not_or, ne_eq]

/-- The quit request of an operation comes before the one of the end. -/
theorem quit_twice :
    let lines := Stream.lines (total [.send .quit] .drop (Session.opened ⟨0, 3⟩ "hub" []))
    let quit := Text.bytes Command.quitLine
    lines = [quit, quit] ∧ ¬ (lines.count quit = 1 ∧ lines.getLast? = some quit) := by
  decide +kernel

end Script

end LightHub
