/-
  Reply lines, as hubs write them.

  * `Reply.spell`: a reply with its status in some numeral, as a line.
  * `decode_spell`: **a reply reads back from its line.**
  * `Counts`: tokens that tell how many lines follow; `listEnd_of_counts`,
    `listEnd_of_not_counts`: exactly these make a counted body.
-/
import LightHub.Client
import LightHub.Proofs.Stream.Reading
import LightHub.Proofs.Wire.Decode
import LightHub.Proofs.Wire.Layout

namespace LightHub

open Text (IsWord Numeral)

namespace Reply

variable {r : Reply} {numeral : String}

/-- The line of a reply, with its status written as `numeral`. -/
def spell (r : Reply) (numeral : String) : String :=
  r.tag ++ Command.spaced (numeral :: r.tokens)

/-- A reply that a line can carry. -/
structure Spellable (r : Reply) (numeral : String) : Prop where
  tag : IsWord r.tag
  status : Numeral numeral r.status.code.toNat
  tokens : ∀ t ∈ r.tokens, IsWord t

instance (r : Reply) (numeral : String) : Decidable (r.Spellable numeral) :=
  decidable_of_iff (IsWord r.tag ∧ Numeral numeral r.status.code.toNat ∧ ∀ t ∈ r.tokens, IsWord t)
    ⟨fun h => ⟨h.1, h.2.1, h.2.2⟩, fun h => ⟨h.1, h.2, h.3⟩⟩

theorem Spellable.isWord (h : r.Spellable numeral) : ∀ w ∈ numeral :: r.tokens, IsWord w :=
  List.forall_mem_cons.2 ⟨h.status.isWord, h.tokens⟩

/-- **A reply reads back from its line.** -/
theorem decode_spell (h : r.Spellable numeral) : decode (r.spell numeral) = .ok r :=
  decode_eq_ok_iff.2 ⟨numeral, Text.words_spaced h.tag h.isWord, h.status⟩

theorem lineText_spell (h : r.Spellable numeral) : Stream.LineText (r.spell numeral) := by
  constructor
  · have htag := h.tag.newline_notMem
    have htokens := Text.newline_notMem_spaced h.isWord
    rw [spell, String.toList_append, List.mem_append, not_or]
    exact ⟨htag, htokens⟩
  · intro hreturn
    have hblank := Text.isBlank_of_getLast?_spaced h.tag h.isWord '\r' hreturn
    exact absurd hblank (by decide)

theorem readReply_spell (h : r.Spellable numeral) (returns : Nat) (rest : List UInt8) :
    Stream.readReply (Stream.lineBytes (r.spell numeral) returns ++ rest) = (.ok r, rest) := by
  have hline := Stream.readLine_lineBytes (lineText_spell h) returns rest
  have hdecode := decode_spell h
  simp only [Stream.readReply, hline, Except.bind, hdecode]

theorem lineText_render (htag : IsWord r.tag) (htokens : ∀ t ∈ r.tokens, IsWord t) :
    Stream.LineText r.render := by
  have hspell : r.render = r.spell (toString r.status.code.toNat) :=
    Text.intercalate_cons_eq_spaced _ _
  rw [hspell]
  exact lineText_spell ⟨htag, Text.numeral_toString _, htokens⟩

end Reply

/-! ## Counted lists -/

/-- Tokens that say how many devices there are: three labels in any letter case,
    the count, and perhaps more. -/
def Counts (tokens : List String) (count : String) : Prop :=
  ∃ number of devices more, tokens = number :: of :: devices :: count :: more ∧
    Text.lower number = "number" ∧ Text.lower of = "of" ∧ Text.lower devices = "devices"

namespace Client

open Layout (listHeader)

/-- A header is in the layout of a counted list exactly if it counts lines. -/
theorem extract_listHeader_eq_ok_iff {r : Reply} {fields : Fields} :
    listHeader.extract r = .ok fields ↔
      ∃ count, Counts r.tokens count ∧ fields = ⟨"list header", [("count", count)]⟩ := by
  obtain ⟨name, values⟩ := fields
  simp only [Layout.extract_eq_ok_iff, listHeader, Layout.fits_label_iff, Layout.fits_field_iff,
    Layout.fits_nil_iff]
  constructor
  · rintro ⟨rfl, number, _, htokens, hnumber, of, _, rfl, hof, devices, _, rfl, hdevices,
      count, more, _, rfl, rfl, rfl⟩
    exact ⟨count, ⟨number, of, devices, more, htokens, hnumber, hof, hdevices⟩, rfl⟩
  · rintro ⟨count, ⟨number, of, devices, more, htokens, hnumber, hof, hdevices⟩, ⟨⟩⟩
    exact ⟨rfl, number, _, htokens, hnumber, of, _, rfl, hof, devices, _, rfl, hdevices,
      count, more, [], rfl, rfl, rfl⟩

theorem listEnd_of_counts {r : Reply} {count : String} {n : UInt64}
    (h : Counts r.tokens count) (hn : Text.uint64? count.toList = some n) :
    listEnd r = .ok (.count n.toNat) := by
  have hnumber : Fields.number Text.uint64? ⟨"list header", [("count", count)]⟩ "count" = .ok n :=
    Fields.number_eq_ok_iff.2 ⟨count, rfl, hn⟩
  unfold listEnd
  rw [extract_listHeader_eq_ok_iff.2 ⟨count, h, rfl⟩]
  simp only [hnumber, Except.map]

theorem listEnd_of_not_counts {r : Reply} (h : ∀ count, ¬ Counts r.tokens count) :
    listEnd r = .ok .sentinel := by
  unfold listEnd
  cases hextract : listHeader.extract r with
  | error e => rfl
  | ok fields =>
    obtain ⟨count, hcount, -⟩ := extract_listHeader_eq_ok_iff.1 hextract
    exact absurd hcount (h count)

end Client

end LightHub
