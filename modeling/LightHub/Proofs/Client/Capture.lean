/-
  Captured codes, left open.

  * `Stream.CaptureFrame`: what a hub says to a sniff, without the code that it
    tells; `readReply_fill`: the code is the second token of the capture.
  * `Learner.exists_heard`: a code is read without regard to the pulse after it,
    and the pulse without regard to the code.
  * `Client.exists_heard_of_scan`: **the code that a hub tells is learned, and has
    no other part in a sniff.**
-/
import LightHub.Proofs.Session.LineWise
import LightHub.Proofs.Wire.Reply

namespace LightHub

/-! ## Words of a line -/

namespace Stream

/-- The end of a line is no part of its words. -/
theorem words_dropLineEnd (t : String) : Text.words (dropLineEnd t) = Text.words t := by
  obtain ⟨ys, ht, hys⟩ :=
    Text.exists_append_of_dropEnd (fun c => decide (c = '\n' ∨ c = '\r')) t.toList
  have hblank : ∀ c ∈ ys, Text.isBlank c = true := by
    intro c hc
    rcases of_decide_eq_true (hys c hc) with rfl | rfl
    · rfl
    · rfl
  have hwords := Text.wordsOf_append_blanks hblank (dropLineEnd t).toList
  rw [dropLineEnd, String.toList_ofList, ← ht] at hwords
  rw [Text.words, Text.words, dropLineEnd, String.toList_ofList, hwords]

/-- A text is read up to its newline, or to the end of the stream. -/
theorem readLine_bytes_append {t : String} {rest : List UInt8} (hne : t.toList ≠ [])
    (ht : '\n' ∉ t.toList) (hrest : ∀ b ∈ rest.head?, b = 10) :
    readLine (Text.bytes t ++ rest) = (.ok (dropLineEnd t), rest.tail) := by
  have hbytes : Text.bytes t ≠ [] := by
    intro h
    obtain rfl : t = "" := Text.bytes_injective h
    exact hne rfl
  have hnewline : 10 ∉ Text.bytes t := fun h => ht (Text.newline_mem_bytes.1 h)
  have hstream : Text.bytes t ++ rest ≠ [] := List.append_ne_nil_of_left_ne_nil hbytes rest
  cases rest with
  | nil =>
    rw [List.append_nil, readLine_of_splitLine hbytes (splitLine_eq_self hnewline), lineText,
      Text.ofBytes?_bytes]
    rfl
  | cons b rest =>
    obtain rfl : b = 10 := hrest b rfl
    rw [readLine_of_splitLine hstream (splitLine_append_newline hnewline rest)]
    exact Prod.ext (lineText_append_lineEnd t 0) rfl

/-- A whole line is taken by itself, whatever follows it. -/
theorem readReply_append {line : List UInt8} (h : IsLine line) (rest : List UInt8) :
    readReply (line ++ rest) = ((lineText line).bind Reply.decode, rest) := by
  obtain ⟨body, rfl, hbody⟩ := h
  have hne : body ++ [10] ++ rest ≠ [] := by simp
  have hsplit : splitLine (body ++ [10] ++ rest) = (body ++ [10], rest) := by
    simpa using splitLine_append_newline hbody rest
  rw [readReply, readLine_of_splitLine hne hsplit]

end Stream

/-! ## Captures -/

/-- The labels of a capture are compared without regard to the code between them. -/
theorem Layout.exists_values (tag : String) (status : Status) (label : String)
    (more : List String) :
    ∃ values : Except Fault (List (String × String)), ∀ token,
      capture.extract ⟨tag, status, label :: token :: more⟩ =
        values.map fun values => ⟨"sniff capture", ("code", token) :: values⟩ := by
  by_cases hlength : more.length + 2 < 4
  · exact ⟨.error (.malformed (.tokensMissing "sniff capture" 4 (more.length + 2))),
      fun token => if_pos hlength⟩
  by_cases hlabel : Text.sameLetters label "Code:" = true
  · refine ⟨matchSlots "sniff capture" 2 [.label "Pulse:", .field "pulse"] more, fun token => ?_⟩
    refine (if_neg hlength).trans ?_
    simp only [capture, matchSlots, hlabel, if_true]
    cases matchSlots "sniff capture" 2 [.label "Pulse:", .field "pulse"] more with
    | error e => rfl
    | ok values => rfl
  · refine ⟨.error (.malformed (.labelMismatch "sniff capture" "Code:" 0 label)), fun token => ?_⟩
    refine (if_neg hlength).trans ?_
    simp only [capture, matchSlots, if_neg hlabel]
    rfl

/-- A code is read without regard to the pulse after it, and the pulse without regard
    to the code. -/
theorem Learner.exists_heard (tag : String) (status : Status) (label : String)
    (more : List String) :
    ∃ heard : Except Fault UInt32, ∀ token code, Text.int64? token.toList = some code →
      captured ⟨tag, status, label :: token :: more⟩ = heard.map fun pulse => ⟨code, pulse⟩ := by
  by_cases hstatus : status = .ok
  · obtain ⟨values, hvalues⟩ := Layout.exists_values tag status label more
    refine ⟨values >>= fun values => Fields.number Text.uint32? ⟨"sniff capture", values⟩ "pulse",
      fun token code hcode => ?_⟩
    rw [captured, if_pos hstatus, hvalues]
    cases values with
    | error e => rfl
    | ok values =>
      have hread : Fields.number Text.int64? ⟨"sniff capture", ("code", token) :: values⟩ "code" =
          .ok code :=
        Fields.number_eq_ok_iff.2 ⟨token, rfl, hcode⟩
      have hpulse : Fields.number Text.uint32? ⟨"sniff capture", ("code", token) :: values⟩
          "pulse" = Fields.number Text.uint32? ⟨"sniff capture", values⟩ "pulse" := rfl
      simp only [Except.map, bind, Except.bind, hread, hpulse]
      cases Fields.number Text.uint32? ⟨"sniff capture", values⟩ "pulse" with
      | error e => rfl
      | ok pulse => rfl
  · refine ⟨.error (.rejected .sniff status (if status = .timedOut then
      "timed out waiting for a remote" else "unknown encoding")), fun token code _ => ?_⟩
    rw [captured, if_neg hstatus]
    rfl

namespace Stream

open Text (IsWord isBlank)

/-- What a hub says to a sniff, without the code that it tells. -/
structure CaptureFrame where
  /-- The line that tells whether it listens -/
  armed : List UInt8
  /-- The line of the capture, up to the code: a tag, a status and a label -/
  before : String
  /-- The blank in front of the code -/
  gap : Char
  /-- The line after the code -/
  after : String
  /-- What follows the line, from its newline on -/
  rest : List UInt8
  isLine_armed : IsLine armed
  words_before : ∃ tag status label, Text.words before = [tag, status, label]
  newline_before : '\n' ∉ before.toList
  isBlank_gap : isBlank gap = true
  gap_ne_newline : gap ≠ '\n'
  isBlank_after : ∀ c ∈ after.toList.head?, isBlank c = true
  newline_after : '\n' ∉ after.toList
  newline_rest : ∀ b ∈ rest.head?, b = 10

namespace CaptureFrame

variable {f : CaptureFrame} {token : String}

/-- The line of the capture, with `token` as the code. -/
def line (f : CaptureFrame) (token : String) : String :=
  f.before ++ String.singleton f.gap ++ token ++ f.after

/-- What the hub says, with `token` as the code. -/
def fill (f : CaptureFrame) (token : String) : List UInt8 :=
  f.armed ++ (Text.bytes (f.line token) ++ f.rest)

theorem toList_line (f : CaptureFrame) (token : String) :
    (f.line token).toList = f.before.toList ++ f.gap :: (token.toList ++ f.after.toList) := by
  simp [line]

/-- The code is a word of its own. -/
theorem words_line (h : IsWord token) :
    Text.words (f.line token) = Text.words f.before ++ token :: Text.words f.after := by
  rw [Text.words, toList_line, Text.wordsOf_append_blank f.isBlank_gap,
    Text.wordsOf_word_append h f.isBlank_after]
  simp [Text.words]

theorem newline_notMem_line (h : IsWord token) : '\n' ∉ (f.line token).toList := by
  rw [toList_line]
  simp only [List.mem_append, List.mem_cons, not_or]
  exact ⟨f.newline_before, f.gap_ne_newline.symm, h.newline_notMem, f.newline_after⟩

/-- The code is the second token of the capture. -/
theorem readReply_fill (f : CaptureFrame) : ∃ tag status label more, ∀ token, IsWord token →
    readReply (Text.bytes (f.line token) ++ f.rest) =
      ((Reply.decodeStatus status).map fun status => ⟨tag, status, label :: token :: more⟩,
        f.rest.tail) := by
  obtain ⟨tag, status, label, hbefore⟩ := f.words_before
  refine ⟨tag, status, label, Text.words f.after, fun token htoken => ?_⟩
  have hne : (f.line token).toList ≠ [] := by simp [toList_line]
  have hwords : Text.words (dropLineEnd (f.line token)) =
      tag :: status :: label :: token :: Text.words f.after := by
    rw [words_dropLineEnd, words_line htoken, hbefore]
    rfl
  have hline := readLine_bytes_append hne (newline_notMem_line htoken) f.newline_rest
  simp only [readReply, hline, Except.bind, Reply.decode_of_words hwords]

/-- So the pulse that the capture tells does not depend on it. -/
theorem exists_heard (f : CaptureFrame) :
    ∃ heard : Except Fault UInt32, ∀ token code, Text.int64? token.toList = some code →
      let capture := readReply (Text.bytes (f.line token) ++ f.rest)
      (capture.1.bind Learner.captured = heard.map fun pulse => ⟨code, pulse⟩) ∧
        capture.2 = f.rest.tail := by
  obtain ⟨tag, status, label, more, hread⟩ := f.readReply_fill
  cases hstatus : Reply.decodeStatus status with
  | error e =>
    refine ⟨.error e, fun token code hcode => ?_⟩
    rw [hread token (Text.isWord_of_int64? hcode), hstatus]
    exact ⟨rfl, rfl⟩
  | ok status =>
    obtain ⟨heard, hheard⟩ := Learner.exists_heard tag status label more
    refine ⟨heard, fun token code hcode => ?_⟩
    rw [hread token (Text.isWord_of_int64? hcode), hstatus]
    exact ⟨hheard token code hcode, rfl⟩

end CaptureFrame

end Stream

/-! ## Sniffs -/

namespace Client

open LightHub.Stream (CaptureFrame IsLine)

/-- The reply that tells whether the hub listens is taken by itself. -/
theorem exists_armed {line : List UInt8} (h : IsLine line) (s : Session) :
    ∃ (armed : Except Fault Outcome) (t : Session), ∀ more, ∃ rest,
      (execute .sniff).on (s.withUnread (line ++ more)) = (armed, t.withUnread rest) ∧
        (armed.isOk → rest = more) := by
  rcases hsend : (Session.send .sniff).on s with ⟨e | ⟨⟩, t⟩
  · refine ⟨.error e, t, fun more => ⟨line ++ more, ?_, nofun⟩⟩
    simp only [execute_eq, Session.request, Exchange.on_bind, Exchange.on_send_withUnread, hsend]
  · refine ⟨((Stream.lineText line).bind Reply.decode).bind fun r =>
      (check .sniff r).map fun _ => .done r, t, fun more => ⟨more, ?_, fun _ => rfl⟩⟩
    have hread : Session.readReply.on (t.withUnread (line ++ more)) =
        ((Stream.lineText line).bind Reply.decode, t.withUnread more) := by
      rw [Session.readReply, Exchange.on_reading, Session.unread_withUnread,
        Stream.readReply_append h]
      rfl
    simp only [execute_eq, Session.request, Exchange.on_bind, Exchange.on_send_withUnread, hsend,
      hread]
    rcases (Stream.lineText line).bind Reply.decode with e | r
    · rfl
    · simp only [Exchange.on_ofResult, Except.bind]
      rcases check .sniff r with e | ⟨⟩
      · rfl
      · rfl

/-- **The code that a hub tells is learned, and has no other part in a sniff.** -/
theorem exists_heard_of_scan (f : CaptureFrame) (s : Session) :
    ∃ (heard : Except Fault UInt32) (t : Session), ∀ token code,
      Text.int64? token.toList = some code → ∃ rest,
        scan.on (s.withUnread (f.fill token)) =
            (heard.map fun pulse => ⟨code, pulse⟩, t.withUnread rest) ∧
          (heard.isOk → rest = f.rest.tail) := by
  obtain ⟨armed, t, harmed⟩ := exists_armed f.isLine_armed s
  obtain ⟨heard, hheard⟩ := f.exists_heard
  cases armed with
  | error e =>
    refine ⟨.error e, t, fun token code _ => ?_⟩
    obtain ⟨rest, hon, -⟩ := harmed (Text.bytes (f.line token) ++ f.rest)
    refine ⟨rest, ?_, nofun⟩
    rw [scan_eq, Exchange.on_bind, CaptureFrame.fill, hon]
    rfl
  | ok outcome =>
    refine ⟨heard, t, fun token code hcode => ⟨f.rest.tail, ?_, fun _ => rfl⟩⟩
    obtain ⟨rest, hon, hrest⟩ := harmed (Text.bytes (f.line token) ++ f.rest)
    obtain rfl := hrest rfl
    obtain ⟨hlearned, hunread⟩ := hheard token code hcode
    rw [scan_eq, Exchange.on_bind, CaptureFrame.fill, hon]
    simp only [Exchange.on_bind, Session.readReply, Exchange.on_reading,
      Session.unread_withUnread, ← hlearned, ← hunread]
    rcases Stream.readReply (Text.bytes (f.line token) ++ f.rest) with ⟨e | r, rest⟩
    · rfl
    · rfl

end Client

end LightHub
