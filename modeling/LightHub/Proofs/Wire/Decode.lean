/-
  Reply lines, read.

  * `decodeStatus_eq_ok_iff`, `decode_eq_ok_iff`: what a status and a line have to be
    like to be read.
  * `malformed_of_decode`: the fault of every other line.
  * `decode_render`: a reply that is made of words reads back from its line.
  * `decode_exact`: **a line is read exactly if it is the line of a reply**, and the
    reply reads back from every line that it can be written as.
-/
import LightHub.Proofs.Text.Numeral
import LightHub.Proofs.Text.Spread
import LightHub.Proofs.Wire.Message
import LightHub.Wire.Reply

namespace LightHub

namespace Reply

open Text (Apart IsWord Numeral spread)

variable {line token : String} {r : Reply} {status : Status}

/-! ## Statuses -/

theorem decodeStatus_eq_ok_iff :
    decodeStatus token = .ok status ↔ Numeral token status.code.toNat := by
  unfold decodeStatus
  constructor
  · intro h
    split at h
    · cases h
    · rename_i n hn
      split at h
      · rename_i hlt
        obtain rfl := Except.ok.inj h
        rw [UInt16.toNat_ofNat_of_lt' hlt]
        exact Text.natural?_eq_some_iff.1 hn
      · cases h
  · intro h
    have hlt : status.code.toNat < UInt16.size := status.code.toNat_lt_size
    simp only [Text.natural?_eq_some_iff.2 h, hlt, if_true, UInt16.ofNat_toNat]

/-- Every number of 16 bits is a status. -/
theorem exists_status {n : Nat} (h : n ≤ 65535) : ∃ status : Status, status.code.toNat = n :=
  ⟨⟨UInt16.ofNat n⟩, UInt16.toNat_ofNat_of_lt' (Nat.lt_succ_of_le h)⟩

theorem malformed_of_decodeStatus {e : Fault} (h : decodeStatus token = .error e) :
    e.Malformed [] := by
  unfold decodeStatus at h
  split at h
  · exact ⟨_, (Except.error.inj h).symm, rfl⟩
  · split at h
    · cases h
    · exact ⟨_, (Except.error.inj h).symm, rfl⟩

/-! ## Lines -/

/-- A reply goes by the words of its line. -/
theorem decode_of_words {tag numeral : String} {tokens : List String}
    (h : Text.words line = tag :: numeral :: tokens) :
    decode line = (decodeStatus numeral).map fun status => ⟨tag, status, tokens⟩ := by
  unfold decode
  rw [h]
  cases hstatus : decodeStatus numeral with
  | error e =>
    simp only [hstatus]
    rfl
  | ok status =>
    simp only [hstatus]
    rfl

theorem decode_eq_ok_iff :
    decode line = .ok r ↔ ∃ numeral, Text.words line = r.tag :: numeral :: r.tokens ∧
      Numeral numeral r.status.code.toNat := by
  unfold decode
  split
  · rename_i tag numeral tokens hwords
    rw [bind_eq_ok_iff]
    constructor
    · rintro ⟨status, hstatus, h⟩
      obtain rfl := Except.ok.inj h
      exact ⟨numeral, hwords, decodeStatus_eq_ok_iff.1 hstatus⟩
    · rintro ⟨numeral', hreply, hnumeral⟩
      rw [hwords] at hreply
      obtain ⟨rfl, rfl, rfl⟩ : tag = r.tag ∧ numeral = numeral' ∧ tokens = r.tokens := by
        simpa using hreply
      exact ⟨r.status, decodeStatus_eq_ok_iff.2 hnumeral, rfl⟩
  · rename_i hshort
    refine iff_of_false nofun ?_
    rintro ⟨numeral, hwords, -⟩
    exact hshort _ _ _ hwords

theorem isOk_decode_iff :
    (decode line).isOk ↔ ∃ tag numeral tokens n,
      Text.words line = tag :: numeral :: tokens ∧ Numeral numeral n ∧ n ≤ 65535 := by
  constructor
  · intro h
    cases hr : decode line with
    | error e =>
      rw [hr] at h
      cases h
    | ok r =>
      obtain ⟨numeral, hwords, hnumeral⟩ := decode_eq_ok_iff.1 hr
      exact ⟨_, _, _, _, hwords, hnumeral, Nat.le_of_lt_succ r.status.code.toNat_lt_size⟩
  · rintro ⟨tag, numeral, tokens, n, hwords, hn, hle⟩
    obtain ⟨status, rfl⟩ := exists_status hle
    have hr : decode line = .ok ⟨tag, status, tokens⟩ :=
      decode_eq_ok_iff.2 ⟨numeral, hwords, hn⟩
    rw [hr]
    rfl

/-- Whatever a line says that is no reply, is quoted. -/
theorem malformed_nil_of_decode {e : Fault} (h : decode line = .error e) : e.Malformed [] := by
  match hwords : Text.words line with
  | tag :: numeral :: tokens =>
    rw [decode_of_words hwords, map_eq_error_iff] at h
    exact malformed_of_decodeStatus h
  | [] | [_] =>
    rw [decode, hwords] at h
    exact ⟨_, (Except.error.inj h).symm, rfl⟩

theorem malformed_of_decode {e : Fault} (h : decode line = .error e) :
    ∃ cause, e = .malformed cause := by
  obtain ⟨cause, rfl, -⟩ := malformed_nil_of_decode h
  exact ⟨cause, rfl⟩

/-! ## Written again -/

theorem isWord_of_decode (h : decode line = .ok r) : IsWord r.tag ∧ ∀ t ∈ r.tokens, IsWord t := by
  obtain ⟨numeral, hwords, -⟩ := decode_eq_ok_iff.1 h
  have hword : ∀ w ∈ r.tag :: numeral :: r.tokens, IsWord w :=
    fun w hw => Text.isWord_of_mem_words (hwords ▸ hw)
  exact ⟨hword _ List.mem_cons_self,
    fun t ht => hword t (List.mem_cons_of_mem _ (List.mem_cons_of_mem _ ht))⟩

theorem isWord_status (status : Status) : IsWord (toString status.code.toNat) :=
  (Text.numeral_toString _).isWord

/-- A reply that is made of words reads back from its line. -/
theorem decode_render (htag : IsWord r.tag) (htokens : ∀ t ∈ r.tokens, IsWord t) :
    decode r.render = .ok r := by
  refine decode_eq_ok_iff.2 ⟨_, Text.words_intercalate ?_, Text.numeral_toString _⟩
  exact List.forall_mem_cons.2 ⟨htag, List.forall_mem_cons.2 ⟨isWord_status r.status, htokens⟩⟩

/-- The words of a reply, with single spaces between its parts. -/
theorem words_tag_status_reason (h : decode line = .ok r) :
    Text.words (r.tag ++ " " ++ toString r.status.code.toNat ++ " " ++ r.reason) =
      r.tag :: toString r.status.code.toNat :: r.tokens := by
  obtain ⟨htag, htokens⟩ := isWord_of_decode h
  rw [Text.words_space, Text.words_space, Text.words_of_isWord htag,
    Text.words_of_isWord (isWord_status r.status), reason, Text.words_intercalate htokens]
  rfl

/-- **A line is read exactly if it is the line of a reply.**  It needs a tag and a
    number of at most 65535 in digits, and the rest is tokens; the fault of every other
    line is that it is malformed.  So it is read exactly if it spreads a reply out, and
    the reply, written with single spaces, reads back. -/
theorem decode_exact (line : String) :
    ((decode line).isOk ↔ ∃ tag numeral tokens n,
        Text.words line = tag :: numeral :: tokens ∧ Numeral numeral n ∧ n ≤ 65535) ∧
      (∀ r, decode line = .ok r ↔ ∃ numeral,
        Text.words line = r.tag :: numeral :: r.tokens ∧ Numeral numeral r.status.code.toNat) ∧
      (∀ e, decode line = .error e → ∃ cause, e = .malformed cause) ∧
      (∀ r, decode line = .ok r ↔ ∃ lead parts numeral, Apart lead parts ∧
        line = spread lead parts ∧ parts.map Prod.fst = r.tag :: numeral :: r.tokens ∧
          Numeral numeral r.status.code.toNat) ∧
      ∀ r, decode line = .ok r →
        decode (r.tag ++ " " ++ toString r.status.code.toNat ++ " " ++ r.reason) = .ok r := by
  refine ⟨isOk_decode_iff, fun r => decode_eq_ok_iff, fun e => malformed_of_decode, fun r => ?_,
    fun r hr => ?_⟩
  · rw [decode_eq_ok_iff]
    constructor
    · rintro ⟨numeral, hwords, hnumeral⟩
      obtain ⟨lead, parts, hparts, hline, hfirst⟩ := Text.words_eq_iff.1 hwords
      exact ⟨lead, parts, numeral, hparts, hline, hfirst, hnumeral⟩
    · rintro ⟨lead, parts, numeral, hparts, hline, hfirst, hnumeral⟩
      exact ⟨numeral, Text.words_eq_iff.2 ⟨lead, parts, hparts, hline, hfirst⟩, hnumeral⟩
  · exact decode_eq_ok_iff.2 ⟨_, words_tag_status_reason hr, Text.numeral_toString _⟩

/-- Any blanks part the words, and zeros in front of the status make no difference. -/
example : decode "\t KL/0.3\u2003 0065535  lamp\u00a0on \n" =
    .ok ⟨"KL/0.3", ⟨65535⟩, ["lamp", "on"]⟩ := by decide

example : decode "KL/0.3 65536" = .error (.malformed (.statusOutOfRange "65536")) := by decide

end Reply

end LightHub
