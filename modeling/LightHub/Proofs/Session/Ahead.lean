/-
  Sessions on a stream that goes on.

  * `LineWise.append`: an exchange that reads line by line does not read ahead.
  * `LineWise.needs`: it reads no line that it does not need.
  * `Operation.perform_of_append`: **what a hub says after the last line that an
    operation has read makes no difference**, and each line that it has read does.
-/
import LightHub.Proofs.Session.LineWise

namespace LightHub

open LightHub.Stream (Whole)

namespace Exchange

variable {α : Type} {x : Exchange α} {s : Session} {used : List UInt8}

/-- What comes after the whole lines that an exchange has taken makes no difference. -/
theorem Takes.append (h : Takes x s used) (hwhole : Whole used)
    (hended : (x.on s).1 ≠ .error (.transport .ended)) (more : List UInt8) :
    x.on (s.withUnread (s.unread ++ more)) =
      ((x.on s).1, (x.on s).2.withUnread ((x.on s).2.unread ++ more)) := by
  have hahead := h.ahead hwhole hended ((x.on s).2.unread ++ more)
  rwa [← List.append_assoc, ← h.front] at hahead

/-- Of whole lines that an exchange takes, fewer are not enough: without the others the
    stream ends too early. -/
theorem LineWise.needs (hx : LineWise x) {before line : List UInt8}
    (hfront : s.unread = before ++ line ++ (x.on s).2.unread) (hbefore : Whole before)
    (hline : line ≠ []) : (x.on (s.withUnread before)).1 = .error (.transport .ended) := by
  by_cases hended : (x.on (s.withUnread before)).1 = .error (.transport .ended)
  · exact hended
  obtain ⟨taken, htaken⟩ := hx (s.withUnread before)
  have hwhole : Whole taken := by
    rcases htaken.lines with hwhole | hall
    · exact hwhole
    · have hsame := htaken.front
      rw [hall, List.append_nil] at hsame
      exact hsame ▸ hbefore
  -- otherwise nothing after `before` is read, although `line` has been
  have hon := htaken.append hwhole hended (line ++ (x.on s).2.unread)
  rw [Session.unread_withUnread, Session.withUnread_withUnread, ← List.append_assoc, ← hfront,
    Session.withUnread_unread] at hon
  have hunread := congrArg (fun p => p.2.unread.length) hon
  have hlength := List.length_pos_iff.2 hline
  simp only [Session.unread_withUnread, List.length_append] at hunread
  omega

end Exchange

namespace Operation

/-- **What a hub says after the last line that an operation has read makes no
    difference.**  An operation takes bytes off the front of the stream.  If they are
    whole lines and the stream has not ended too early, then with any more bytes after
    the stream the operation comes to the same result, writes the same and takes the
    same bytes.  It has needed all of them: with fewer lines the stream ends too early.
    So an operation that fails on a line has not read the next one. -/
theorem perform_of_append {op : Operation} (hop : op.isLearning = false) {s t : Session}
    {result : Except Fault Answer} (h : op.perform.on s = (result, t)) :
    ∃ used, s.unread = used ++ t.unread ∧
      (Whole used → result ≠ .error (.transport .ended) →
        (∀ more, op.perform.on (s.withUnread (s.unread ++ more)) =
          (result, t.withUnread (t.unread ++ more))) ∧
        ∀ before line, used = before ++ line → Whole before → line ≠ [] →
          (op.perform.on (s.withUnread before)).1 = .error (.transport .ended)) := by
  have hlines := lineWise_perform hop
  obtain ⟨used, hused⟩ := hlines s
  have hfront := hused.front
  have happend := hused.append
  simp only [h] at hfront happend
  refine ⟨used, hfront, fun hwhole hended => ⟨happend hwhole hended, ?_⟩⟩
  rintro before line rfl hbefore hline
  have hsplit : s.unread = before ++ line ++ (op.perform.on s).2.unread := by rwa [h]
  exact hlines.needs hsplit hbefore hline

/-- A body that ends too early: its last line has been needed, and the line after it is
    left. -/
theorem perform_of_append_bodyEnded :
    let lamp := Text.bytes "lamp\n"
    let dot := Text.bytes ".\r\n"
    let more := Text.bytes "fan\n"
    let s := Session.opened .current "hub" (lamp ++ dot)
    let result : Except Fault Answer := .error (.malformed (.bodyEnded 1 2))
    (readBody (.count 2)).perform.on s = (result, s.withUnread []) ∧
      (readBody (.count 2)).perform.on (s.withUnread (lamp ++ dot ++ more)) =
        (result, s.withUnread more) ∧
      ((readBody (.count 2)).perform.on (s.withUnread lamp)).1 = .error (.transport .ended) := by
  intro lamp dot more s result
  have hon : (readBody (.count 2)).perform.on s = (result, s.withUnread []) := rfl
  obtain ⟨used, hfront, hused⟩ := perform_of_append rfl hon
  obtain rfl : lamp ++ dot = used := hfront.trans (List.append_nil used)
  have hended : (.error (.malformed (.bodyEnded 1 2)) : Except Fault Answer) ≠
      .error (.transport .ended) := nofun
  obtain ⟨hmore, hneeds⟩ := hused (by decide +kernel) hended
  exact ⟨hon, hmore more, hneeds lamp dot rfl (by decide +kernel) (by decide +kernel)⟩

end Operation

end LightHub
