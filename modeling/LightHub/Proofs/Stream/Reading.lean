/-
  Lines, read from the front of a stream.

  * `LineText`: a text that a line can carry; `lineBytes`: the line of a text.
  * `readLine_lineBytes`: **the line of a text reads as that text**, and what
    follows it is unread.
  * `readCounted_bodyBytes`, `readToSentinel_bodyBytes`: so do the lines of a
    body, by their number or up to the sentinel.
-/
import LightHub.Proofs.Stream.Lines
import LightHub.Proofs.Text.Ends
import LightHub.Stream.Body
import Mathlib.Tactic.SplitIfs

namespace LightHub.Stream

/-! ## Lines of texts -/

/-- A text that a line can carry: no newline in it, and no carriage return at
    its end. -/
structure LineText (t : String) : Prop where
  newline_notMem : '\n' ∉ t.toList
  getLast?_ne : t.toList.getLast? ≠ some '\r'

instance (t : String) : Decidable (LineText t) :=
  decidable_of_iff ('\n' ∉ t.toList ∧ t.toList.getLast? ≠ some '\r')
    ⟨fun h => ⟨h.1, h.2⟩, fun h => ⟨h.1, h.2⟩⟩

/-- The end of a line: carriage returns, and a newline after them. -/
def lineEnd (returns : Nat) : List UInt8 :=
  List.replicate returns 13 ++ [10]

/-- The line of a text.  Most hubs end it with no carriage return or with one. -/
def lineBytes (t : String) (returns : Nat) : List UInt8 :=
  Text.bytes t ++ lineEnd returns

theorem splitLine_append_newline {body : List UInt8} (h : 10 ∉ body) (rest : List UInt8) :
    splitLine (body ++ 10 :: rest) = (body ++ [10], rest) := by
  induction body with
  | nil => simp [splitLine]
  | cons b body ih =>
    have hb : b ≠ 10 := fun heq => h (heq ▸ List.mem_cons_self)
    have hbody := ih fun hmem => h (List.mem_cons_of_mem b hmem)
    rw [List.cons_append, splitLine, if_neg hb, hbody]
    rfl

theorem splitLine_eq_self {body : List UInt8} (h : 10 ∉ body) : splitLine body = (body, []) := by
  induction body with
  | nil => rfl
  | cons b body ih =>
    have hb : b ≠ 10 := fun heq => h (heq ▸ List.mem_cons_self)
    have hbody := ih fun hmem => h (List.mem_cons_of_mem b hmem)
    rw [splitLine, if_neg hb, hbody]

/-- What the bytes of one line read as. -/
def lineText (line : List UInt8) : Except Fault String :=
  match Text.ofBytes? line with
  | some text => .ok (dropLineEnd text)
  | none => .error (.transport .notUtf8)

/-- A stream that is not empty is read up to its first newline. -/
theorem readLine_of_splitLine {s line rest : List UInt8} (hs : s ≠ [])
    (h : splitLine s = (line, rest)) : readLine s = (lineText line, rest) := by
  cases s with
  | nil => exact absurd rfl hs
  | cons b s =>
    simp only [readLine, h, lineText]
    cases Text.ofBytes? line <;> rfl

/-- A reply takes one line, whether it can be read or not. -/
theorem readReply_snd (s : List UInt8) : (readReply s).2 = (splitLine s).2 := by
  cases s with
  | nil => rfl
  | cons b rest =>
    have hline : readLine (b :: rest) =
        (lineText (splitLine (b :: rest)).1, (splitLine (b :: rest)).2) :=
      readLine_of_splitLine (List.cons_ne_nil b rest) rfl
    rw [readReply, hline]

/-- A line that cannot be read is a failure of the transport. -/
theorem transport_of_readLine {s : List UInt8} {e : Fault} (h : (readLine s).1 = .error e) :
    ∃ cause, e = .transport cause := by
  cases s with
  | nil => exact ⟨_, (Except.error.inj h).symm⟩
  | cons b rest =>
    rw [readLine_of_splitLine (List.cons_ne_nil b rest) rfl, lineText] at h
    split at h
    · cases h
    · exact ⟨_, (Except.error.inj h).symm⟩

theorem bytes_lineEnd (returns : Nat) :
    Text.bytes (String.ofList (List.replicate returns '\r' ++ ['\n'])) = lineEnd returns := by
  have hreturn : String.utf8EncodeChar '\r' = [13] := by decide
  have hnewline : ['\n'].flatMap String.utf8EncodeChar = [10] := by decide
  rw [Text.bytes_eq_flatMap, String.toList_ofList, List.flatMap_append, hnewline,
    List.flatMap_replicate, hreturn, List.flatten_replicate_singleton, lineEnd]

/-- Carriage returns and newlines at the end of a line make no difference. -/
theorem dropLineEnd_append (t : String) (returns : Nat) :
    dropLineEnd (t ++ String.ofList (List.replicate returns '\r' ++ ['\n'])) = dropLineEnd t := by
  unfold dropLineEnd
  rw [String.toList_append, String.toList_ofList, Text.dropEnd_append_of_forall]
  intro c hc
  rcases List.mem_append.1 hc with hc | hc
  · rw [List.eq_of_mem_replicate hc]
    rfl
  · rw [List.mem_singleton.1 hc]
    rfl

theorem dropLineEnd_eq_self {t : String} (h : LineText t) : dropLineEnd t = t := by
  unfold dropLineEnd
  rw [Text.dropEnd_eq_self, String.ofList_toList]
  intro c hc
  have hmem : c ∈ t.toList := List.mem_of_getLast? hc
  have hnewline : c ≠ '\n' := fun heq => h.newline_notMem (heq ▸ hmem)
  have hreturn : c ≠ '\r' := fun heq => h.getLast?_ne (heq ▸ hc)
  simp [hnewline, hreturn]

theorem newline_notMem_returns (returns : Nat) : (10 : UInt8) ∉ List.replicate returns 13 := by
  intro hmem
  exact absurd (List.eq_of_mem_replicate hmem) (by decide)

/-- The end of a line closes what is before it. -/
theorem splitLine_append_lineEnd {body : List UInt8} (h : 10 ∉ body) (returns : Nat)
    (rest : List UInt8) :
    splitLine (body ++ (lineEnd returns ++ rest)) = (body ++ lineEnd returns, rest) := by
  have hbody : 10 ∉ body ++ List.replicate returns 13 := by
    rw [List.mem_append, not_or]
    exact ⟨h, newline_notMem_returns returns⟩
  have hsplit := splitLine_append_newline hbody rest
  simpa [lineEnd] using hsplit

theorem lineText_append_lineEnd (t : String) (returns : Nat) :
    lineText (Text.bytes t ++ lineEnd returns) = .ok (dropLineEnd t) := by
  rw [lineText, ← bytes_lineEnd, ← Text.bytes_append, Text.ofBytes?_bytes]
  exact congrArg Except.ok (dropLineEnd_append t returns)

/-- **The line of a text reads as that text**, and what follows it is unread. -/
theorem readLine_lineBytes {t : String} (h : LineText t) (returns : Nat) (rest : List UInt8) :
    readLine (lineBytes t returns ++ rest) = (.ok t, rest) := by
  have hne : lineBytes t returns ++ rest ≠ [] := by simp [lineBytes, lineEnd]
  have hbody : 10 ∉ Text.bytes t := by
    rw [Text.newline_mem_bytes]
    exact h.newline_notMem
  have hsplit : splitLine (lineBytes t returns ++ rest) = (lineBytes t returns, rest) := by
    rw [lineBytes, List.append_assoc]
    exact splitLine_append_lineEnd hbody returns rest
  rw [readLine_of_splitLine hne hsplit, lineBytes, lineText_append_lineEnd, dropLineEnd_eq_self h]

/-! ## Bodies -/

/-- A text with the carriage returns at the end of its line. -/
abbrev Ended := String × Nat

/-- The lines of texts, one after the other. -/
def bodyBytes (body : List Ended) : List UInt8 :=
  body.flatMap fun l => lineBytes l.1 l.2

/-- A text that is no end of a body. -/
structure BodyText (t : String) : Prop extends LineText t where
  ne_sentinel : t ≠ sentinel

instance (t : String) : Decidable (BodyText t) :=
  decidable_of_iff (LineText t ∧ t ≠ sentinel) ⟨fun h => ⟨h.1, h.2⟩, fun h => ⟨h.1, h.2⟩⟩

theorem lineText_sentinel : LineText sentinel := by
  decide

@[simp]
theorem bodyBytes_nil : bodyBytes [] = [] := rfl

@[simp]
theorem bodyBytes_cons (l : Ended) (body : List Ended) :
    bodyBytes (l :: body) = lineBytes l.1 l.2 ++ bodyBytes body := rfl

/-- **A counted body reads as its texts.** -/
theorem readCounted_bodyBytes (total : Nat) {body : List Ended} (h : ∀ l ∈ body, BodyText l.1)
    (rest : List UInt8) :
    readCounted total body.length (bodyBytes body ++ rest) = (.ok (body.map Prod.fst), rest) := by
  induction body with
  | nil => rfl
  | cons l body ih =>
    have hl := h l List.mem_cons_self
    have hbody := ih fun m hm => h m (List.mem_cons_of_mem l hm)
    have hread := readLine_lineBytes hl.toLineText l.2 (bodyBytes body ++ rest)
    rw [bodyBytes_cons, List.append_assoc, List.length_cons, readCounted, hread]
    simp only [hl.ne_sentinel, if_false, hbody, Except.map, List.map_cons]

/-- One line of a body that goes on. -/
theorem readToSentinel_of_readLine {s rest : List UInt8} {l : String}
    (h : readLine s = (.ok l, rest)) :
    readToSentinel s =
      if l = sentinel then (.ok [], rest)
      else ((readToSentinel rest).1.map (l :: ·), (readToSentinel rest).2) := by
  rw [readToSentinel]
  split
  · rename_i e t he
    rw [h] at he
    cases he
  · rename_i m t hm
    rw [h] at hm
    cases hm
    rfl

theorem readToSentinel_of_readLine_error {s rest : List UInt8} {e : Fault}
    (h : readLine s = (.error e, rest)) : readToSentinel s = (.error e, rest) := by
  rw [readToSentinel]
  split
  · rename_i e t he
    rw [h] at he
    cases he
    rfl
  · rename_i m t hm
    rw [h] at hm
    cases hm

/-- **A body reads as its texts up to the sentinel**, which is consumed. -/
theorem readToSentinel_bodyBytes {body : List Ended} (h : ∀ l ∈ body, BodyText l.1)
    (returns : Nat) (rest : List UInt8) :
    readToSentinel (bodyBytes body ++ lineBytes sentinel returns ++ rest) =
      (.ok (body.map Prod.fst), rest) := by
  induction body with
  | nil =>
    have hread := readLine_lineBytes lineText_sentinel returns rest
    rw [bodyBytes_nil, List.nil_append, readToSentinel_of_readLine hread, if_pos rfl]
    rfl
  | cons l body ih =>
    have hl := h l List.mem_cons_self
    have hbody := ih fun m hm => h m (List.mem_cons_of_mem l hm)
    have hread := readLine_lineBytes hl.toLineText l.2
      (bodyBytes body ++ lineBytes sentinel returns ++ rest)
    have happend : bodyBytes (l :: body) ++ lineBytes sentinel returns ++ rest =
        lineBytes l.1 l.2 ++ (bodyBytes body ++ lineBytes sentinel returns ++ rest) := by
      simp only [bodyBytes_cons, List.append_assoc]
    rw [happend, readToSentinel_of_readLine hread, if_neg hl.ne_sentinel, hbody]
    rfl

end LightHub.Stream
