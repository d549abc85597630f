/-
  Sessions on a stream that is cut short.

  * `Operation.perform_of_cut`: **an answer to a cut stream is the answer to the
    whole one**, as long as no line that was read has lost some of its text.
  * `readBody_of_cut`: a line that has lost some of its text is taken for a
    whole one.
-/
import LightHub.Proofs.Session.LineWise

namespace LightHub

open LightHub.Stream (Whole lineEnd)

namespace Operation

/-- **An answer to a cut stream is the answer to the whole one**, unless the cut
    goes through the text of the last line that was read.  It does not if some of
    the cut stream is still unread, if the cut is between two lines, or if only
    the end of a line is missing. -/
theorem perform_of_cut {op : Operation} (hop : op.isLearning = false) {s t : Session}
    {answer : Answer} (h : op.perform.on s = (.ok answer, t)) {more : List UInt8}
    (hcut : t.unread ≠ [] ∨ Whole s.unread ∨ ∃ returns rest, more = lineEnd returns ++ rest) :
    ∃ rest, op.perform.on (s.withUnread (s.unread ++ more)) = (.ok answer, t.withUnread rest) := by
  obtain ⟨used, hfront, hlines, hahead, hlast⟩ := lineWise_perform hop s
  simp only [h] at hfront hlines hahead hlast
  by_cases hused : Whole used
  · refine ⟨t.unread ++ more, ?_⟩
    rw [hfront, List.append_assoc]
    exact hahead hused nofun (t.unread ++ more)
  · have hall : t.unread = [] := hlines.resolve_left hused
    rw [hall, List.append_nil] at hfront
    rcases hcut with hunread | hwhole | ⟨returns, rest, rfl⟩
    · exact absurd hall hunread
    · rw [hfront] at hwhole
      exact absurd hwhole hused
    · refine ⟨rest, ?_⟩
      rw [hfront]
      exact hlast hused answer rfl returns rest

/-- Of a counted list, all but the end of the second line. -/
theorem perform_of_cut_lineEnd :
    let s := Session.opened .current "hub" (Text.bytes "lamp\nfan")
    let more := Text.bytes "\r\nheater\n"
    (readBody (.count 2)).perform.on s = (.ok (.lines ["lamp", "fan"]), s.withUnread []) ∧
      more = lineEnd 1 ++ Text.bytes "heater\n" ∧
        ∃ rest, (readBody (.count 2)).perform.on (s.withUnread (s.unread ++ more)) =
          (.ok (.lines ["lamp", "fan"]), (s.withUnread []).withUnread rest) := by
  intro s more
  have hread : (readBody (.count 2)).perform.on s =
      (.ok (.lines ["lamp", "fan"]), s.withUnread []) := rfl
  have hmore : more = lineEnd 1 ++ Text.bytes "heater\n" := by decide +kernel
  exact ⟨hread, hmore, perform_of_cut rfl hread (.inr (.inr ⟨1, _, hmore⟩))⟩

/-- A line that has lost some of its text is taken for a whole one: a list of two
    devices, without the last letter. -/
theorem readBody_of_cut :
    let hub := Text.bytes "lamp\nfan\n"
    let cut := Text.bytes "lamp\nfa"
    Whole hub ∧ cut <+: hub ∧ cut ≠ hub ∧
      ((Session.readBody (.count 2)).on (.opened .current "hub" cut)).1 = .ok ["lamp", "fa"] ∧
        ((Session.readBody (.count 2)).on (.opened .current "hub" hub)).1 ≠ .ok ["lamp", "fa"] := by
  intro hub cut
  have hhub : ((Session.readBody (.count 2)).on (.opened .current "hub" hub)).1 =
      .ok ["lamp", "fan"] := rfl
  refine ⟨by decide +kernel, by decide +kernel, by decide +kernel, rfl, ?_⟩
  rw [hhub]
  intro h
  have hlines : ["lamp", "fan"] = ["lamp", "fa"] := Except.ok.inj h
  exact absurd hlines (by decide)

end Operation

end LightHub
