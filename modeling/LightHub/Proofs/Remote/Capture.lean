/-
  Captured codes, as hubs tell them.

  * `Tells`: tokens that tell a learned code; `captured_eq_ok_iff`: exactly the accepted
    replies with such tokens bring one.
  * `Hears`, `Mishears`: a line that tells a code, and the fault of one that does not.
  * `step_awaitingCapture`: what a learner comes to that awaits a capture.
  * `capture_exact`: **it learns exactly the codes that are told**, with the integers as
    they are written, and has failed after any other line.
-/
import LightHub.Proofs.Remote.Runs
import LightHub.Proofs.Wire.Reply

namespace LightHub

open Text (IsWord SignedNumeral UnsignedNumeral)

/-! ## Captures -/

/-- Tokens that tell two values: a label in any letter case and the code, another label
    and the pulse, and perhaps more. -/
def CaptureTokens (tokens : List String) (code pulse : String) : Prop :=
  ∃ codeLabel pulseLabel more, tokens = codeLabel :: code :: pulseLabel :: pulse :: more ∧
    Text.lower codeLabel = "code:" ∧ Text.lower pulseLabel = "pulse:"

/-- The values that the tokens tell are the code and the pulse of `learned`, with the
    integers that are written there. -/
def Tells (tokens : List String) (learned : Learned) : Prop :=
  ∃ code pulse, CaptureTokens tokens code pulse ∧
    SignedNumeral code learned.code.toInt ∧ UnsignedNumeral pulse learned.pulse.toNat

/-- The tokens that a hub tells a learned code with. -/
def Learned.tokens (learned : Learned) : List String :=
  ["Code:", toString learned.code.toInt, "Pulse:", toString learned.pulse.toNat]

theorem Learned.tells_tokens (learned : Learned) : Tells learned.tokens learned := by
  refine ⟨_, _, ⟨_, _, [], rfl, by decide, by decide⟩, ?_, ?_⟩
  · exact Text.signedNumeral_toString learned.code.toInt
  · exact .digits (Text.numeral_toString learned.pulse.toNat)

theorem Learned.isWord_of_mem_tokens (learned : Learned) : ∀ t ∈ learned.tokens, IsWord t := by
  simp only [tokens, List.forall_mem_cons]
  exact ⟨by decide, Text.isWord_intRepr _, by decide, Text.isWord_natRepr _, nofun⟩

theorem Layout.extract_capture_eq_ok_iff {r : Reply} {fields : Fields} :
    capture.extract r = .ok fields ↔ ∃ code pulse, CaptureTokens r.tokens code pulse ∧
      fields = ⟨"sniff capture", [("code", code), ("pulse", pulse)]⟩ := by
  obtain ⟨name, values⟩ := fields
  simp only [extract_eq_ok_iff, capture, fits_label_iff, fits_field_iff, fits_nil_iff]
  constructor
  · rintro ⟨rfl, codeLabel, _, htokens, hcode, code, _, _, rfl, ⟨pulseLabel, _, rfl, hpulse,
      pulse, more, _, rfl, rfl, rfl⟩, rfl⟩
    exact ⟨code, pulse, ⟨codeLabel, pulseLabel, more, htokens, hcode, hpulse⟩, rfl⟩
  · rintro ⟨code, pulse, ⟨codeLabel, pulseLabel, more, htokens, hcode, hpulse⟩, ⟨⟩⟩
    exact ⟨rfl, codeLabel, _, htokens, hcode, code, _, _, rfl, ⟨pulseLabel, _, rfl, hpulse,
      pulse, more, _, rfl, rfl, rfl⟩, rfl⟩

namespace Learner

variable {r : Reply} {learned : Learned}

/-- **A code is captured exactly from an accepted reply that tells it.** -/
theorem captured_eq_ok_iff :
    captured r = .ok learned ↔ r.status = .ok ∧ Tells r.tokens learned := by
  unfold captured
  split_ifs with hok
  · simp only [bind_eq_ok_iff, Layout.extract_capture_eq_ok_iff, Fields.number_eq_ok_iff,
      Text.int64?_eq_some_iff, Text.uint32?_eq_some_iff]
    constructor
    · rintro ⟨_, ⟨code, pulse, hcaptures, rfl⟩, n, ⟨_, ⟨⟩, hcode⟩, m, ⟨_, ⟨⟩, hpulse⟩, ⟨⟩⟩
      exact ⟨hok, code, pulse, hcaptures, hcode, hpulse⟩
    · rintro ⟨-, code, pulse, hcaptures, hcode, hpulse⟩
      exact ⟨_, ⟨code, pulse, hcaptures, rfl⟩, _, ⟨code, rfl, hcode⟩, _, ⟨pulse, rfl, hpulse⟩, rfl⟩
  · exact iff_of_false nofun fun h => hok h.1

/-- How a hub that listens says that it brings no code. -/
def refusal (status : Status) : Fault :=
  .rejected .sniff status
    (if status = .timedOut then "timed out waiting for a remote" else "unknown encoding")

theorem captured_of_status_ne (h : r.status ≠ .ok) : captured r = .error (refusal r.status) :=
  if_neg h

/-- An accepted reply that tells no code is malformed. -/
theorem malformed_of_captured {e : Fault} (hok : r.status = .ok) (h : captured r = .error e) :
    e.Malformed ["sniff capture"] := by
  rw [captured, if_pos hok] at h
  have hfaults : FaultsIn (·.Malformed ["sniff capture"]) (do
      let fields ← Layout.capture.extract r
      let code ← fields.number Text.int64? "code"
      let pulse ← fields.number Text.uint32? "pulse"
      return Learned.mk code pulse) := by
    refine FaultsIn.bind (fun _ => Layout.malformed_of_extract) fun fields hfields => ?_
    have hlayout : fields.layout = "sniff capture" := (Layout.extract_eq_ok_iff.1 hfields).1
    rw [← hlayout]
    exact FaultsIn.bind (fun _ => Fields.malformed_of_number) fun _ _ =>
      FaultsIn.bind (fun _ => Fields.malformed_of_number) fun _ _ => faultsIn_ok _
  exact hfaults e h

/-! ## Lines -/

/-- The line is an accepted reply that tells a learned code. -/
def Hears (line : Except Fault String) (learned : Learned) : Prop :=
  ∃ text r, line = .ok text ∧ Reply.decode text = .ok r ∧ r.status = .ok ∧ Tells r.tokens learned

/-- What is wrong with a line that tells no code: it cannot be read, it is a reply of
    another status, or it is malformed. -/
inductive Mishears : Except Fault String → Fault → Prop
  | unread (cause : TransportFault) : Mishears (.error (.transport cause)) (.transport cause)
  | refused {text : String} {r : Reply} : Reply.decode text = .ok r → r.status ≠ .ok →
      Mishears (.ok text) (refusal r.status)
  | malformed {text : String} (cause : MalformedReply) :
      (∀ r, Reply.decode text = .ok r → r.status = .ok) →
      (∀ learned, ¬ Hears (.ok text) learned) → Mishears (.ok text) (.malformed cause)

/-- What a line brings to a learner that awaits a capture. -/
def hear (line : Except Fault String) : Except Fault Learned :=
  (line.bind Reply.decode).bind captured

theorem hear_eq_ok_iff {line : Except Fault String} :
    hear line = .ok learned ↔ Hears line learned := by
  constructor
  · intro h
    obtain ⟨r, hr, hcaptured⟩ := bind_eq_ok_iff.1 h
    obtain ⟨text, hline, hdecode⟩ := bind_eq_ok_iff.1 hr
    exact ⟨text, r, hline, hdecode, captured_eq_ok_iff.1 hcaptured⟩
  · rintro ⟨text, r, hline, hdecode, htells⟩
    exact bind_eq_ok_iff.2 ⟨r, bind_eq_ok_iff.2 ⟨text, hline, hdecode⟩,
      captured_eq_ok_iff.2 htells⟩

/-- The ends of the ranges, with signs, in other letter cases, and with more after them. -/
example : hear (.ok "KL/0.2 200 CODE: -9223372036854775808 pulse: +4294967295 more") =
    .ok ⟨Int64.minValue, 4294967295⟩ := by decide

/-- A pulse beyond its range is not cut to fit. -/
example : hear (.ok "KL/0.2 200 Code: 5592371 Pulse: 4294967296") =
    .error (.malformed (.notNumber "sniff capture" "pulse" "4294967296")) := by decide

/-- A reply that brings an error is refused, or malformed. -/
theorem mishears_of_captured {text : String} {e : Fault} (hdecode : Reply.decode text = .ok r)
    (hnone : ∀ learned, ¬ Hears (.ok text) learned) (h : captured r = .error e) :
    Mishears (.ok text) e := by
  by_cases hok : r.status = .ok
  · obtain ⟨cause, rfl, -⟩ := malformed_of_captured hok h
    refine .malformed cause (fun r' hr' => ?_) hnone
    rwa [← Except.ok.inj (hdecode.symm.trans hr')]
  · rw [captured_of_status_ne hok] at h
    obtain rfl := Except.error.inj h
    exact .refused hdecode hok

/-- A line that brings an error tells no code, and the error says why. -/
theorem mishears_of_hear {unread : List UInt8} {e : Fault}
    (h : hear (Stream.readLine unread).1 = .error e) : Mishears (Stream.readLine unread).1 e := by
  cases hline : (Stream.readLine unread).1 with
  | error f =>
    obtain ⟨cause, rfl⟩ := Stream.transport_of_readLine hline
    rw [hline] at h
    obtain rfl := Except.error.inj h
    exact .unread cause
  | ok text =>
    rw [hline] at h
    have hnone : ∀ learned, ¬ Hears (.ok text) learned := by
      intro learned hears
      rw [hear_eq_ok_iff.2 hears] at h
      cases h
    change (Reply.decode text).bind captured = .error e at h
    cases hdecode : Reply.decode text with
    | error f =>
      obtain ⟨cause, rfl⟩ := Reply.malformed_of_decode hdecode
      rw [hdecode] at h
      obtain rfl := Except.error.inj h
      exact .malformed cause (fun r hr => absurd (hdecode.symm.trans hr) nofun) hnone
    | ok r =>
      rw [hdecode] at h
      exact mishears_of_captured hdecode hnone h

/-! ## Steps -/

variable (name : String) (s : Session)

/-- A learner that awaits a capture takes one line, and has failed unless that brings a
    learned code. -/
theorem step_awaitingCapture :
    let heard := hear (Stream.readLine s.unread).1
    (⟨name, .awaitingCapture⟩ : Learner).step.run s =
      ((heard.map fun _ => (), ⟨name, settled (heard.map .validating)⟩),
        { s with unread := (Stream.splitLine s.unread).2 }) := by
  intro heard
  have hadvance : (advance name .awaitingCapture).on s =
      (heard.map .validating, { s with unread := (Stream.splitLine s.unread).2 }) := by
    rw [← Stream.readReply_snd]
    simp only [advance, Exchange.on_bind, Session.readReply, Exchange.on_reading, heard, hear]
    change _ = Prod.mk (((Stream.readReply s.unread).1.bind captured).map _) _
    rcases (Stream.readReply s.unread).1 with e | r
    · rfl
    · change _ = Prod.mk ((captured r).map _) _
      cases hcaptured : captured r <;> simp [hcaptured, Except.map]
  rw [run_step _ hadvance]
  cases heard <;> rfl

/-- **A learner that awaits a capture learns exactly the codes that are told.**  It takes
    one line, whatever that is.  The code and the pulse are the integers that stand in
    their places, whatever comes after them; any other line leaves the learner failed,
    with a fault that says what is wrong with the line.  A learned code in a reply reads
    back as it is. -/
theorem capture_exact :
    let run := (⟨name, .awaitingCapture⟩ : Learner).step.run s
    let line := (Stream.readLine s.unread).1
    run.2 = { s with unread := (Stream.splitLine s.unread).2 } ∧
      (∀ learned, run.1 = (.ok (), ⟨name, .validating learned⟩) ↔ Hears line learned) ∧
      ((∀ learned, ¬ Hears line learned) →
        ∃ e, run.1 = (.error e, ⟨name, .failed⟩) ∧ Mishears line e) ∧
      ∀ tag learned returns rest, IsWord tag →
        s.unread = Stream.lineBytes (Reply.render ⟨tag, .ok, learned.tokens⟩) returns ++ rest →
        run = ((.ok (), ⟨name, .validating learned⟩), { s with unread := rest }) := by
  intro run line
  have hrun : run = _ := step_awaitingCapture name s
  refine ⟨by rw [hrun], fun learned => ?_, fun hnone => ?_, ?_⟩
  · rw [hrun, ← hear_eq_ok_iff]
    cases hear line <;> simp [settled, Except.map]
  · cases hheard : hear line with
    | ok learned => exact absurd (hear_eq_ok_iff.1 hheard) (hnone learned)
    | error e =>
      refine ⟨e, ?_, mishears_of_hear hheard⟩
      rw [hrun, hheard]
      rfl
  · intro tag learned returns rest htag hunread
    let r : Reply := ⟨tag, .ok, learned.tokens⟩
    have htokens := learned.isWord_of_mem_tokens
    have hline : Stream.readLine s.unread = (.ok r.render, rest) := by
      rw [hunread]
      exact Stream.readLine_lineBytes (Reply.lineText_render htag htokens) returns rest
    have hhears : hear line = .ok learned :=
      hear_eq_ok_iff.2 ⟨r.render, r, congrArg Prod.fst hline, Reply.decode_render htag htokens,
        rfl, learned.tells_tokens⟩
    have hrest : (Stream.splitLine s.unread).2 = rest := by
      rw [← Stream.readReply_snd]
      exact congrArg Prod.snd hline
    rw [hrun, hhears, hrest]
    rfl

end Learner

end LightHub
