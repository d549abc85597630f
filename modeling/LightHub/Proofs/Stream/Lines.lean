/-
  The lines of a byte stream.

  * `newline_mem_bytes`: the newline byte stands for the newline character, and
    for nothing else.
  * `lines`: a stream, cut after every newline.
  * `IsLine`: exactly one newline, as the last byte; `lines_flatten`: **lines
    that follow each other are told apart again.**
-/
import LightHub.Stream.Line

namespace LightHub

namespace Text

theorem bytes_eq_flatMap (s : String) : bytes s = s.toList.flatMap String.utf8EncodeChar := by
  unfold bytes
  rw [← String.utf8Encode_toList, List.utf8Encode]
  simp

/-- The bytes of every other character are above the newline or below it. -/
theorem newline_mem_utf8EncodeChar {c : Char} : 10 ∈ String.utf8EncodeChar c ↔ c = '\n' := by
  have hc : c = '\n' ↔ c.val.toNat = 10 := Char.toNat_inj.symm
  rw [hc]
  fun_cases String.utf8EncodeChar c
  all_goals
    simp only [List.mem_cons, List.not_mem_nil, or_false, ← UInt8.toNat_inj, UInt8.toNat_ofNat',
      UInt8.reduceToNat]
    omega

theorem newline_mem_bytes {s : String} : 10 ∈ bytes s ↔ '\n' ∈ s.toList := by
  rw [bytes_eq_flatMap, List.mem_flatMap]
  constructor
  · rintro ⟨c, hc, h⟩
    rwa [← newline_mem_utf8EncodeChar.1 h]
  · exact fun h => ⟨'\n', h, newline_mem_utf8EncodeChar.2 rfl⟩

theorem bytes_injective {s t : String} (h : bytes s = bytes t) : s = t := by
  have hs := ofBytes?_bytes s
  rw [h, ofBytes?_bytes, Option.some.injEq] at hs
  exact hs.symm

end Text

namespace Stream

/-! ## Lines -/

/-- The lines of a stream, each with its newline.  The last one may lack it. -/
def lines : List UInt8 → List (List UInt8)
  | [] => []
  | b :: rest =>
    if b = 10 then [b] :: lines rest
    else match lines rest with
      | [] => [[b]]
      | l :: ls => (b :: l) :: ls

/-- Exactly one newline, as the last byte. -/
def IsLine (l : List UInt8) : Prop :=
  ∃ body, l = body ++ [10] ∧ 10 ∉ body

theorem isLine_bytes {body : String} (h : '\n' ∉ body.toList) :
    IsLine (Text.bytes (body ++ "\n")) := by
  refine ⟨Text.bytes body, Text.bytes_append body "\n", ?_⟩
  rwa [Text.newline_mem_bytes]

/-- A line at the front of a stream is its first line. -/
theorem lines_append {l : List UInt8} (h : IsLine l) (rest : List UInt8) :
    lines (l ++ rest) = l :: lines rest := by
  obtain ⟨body, rfl, hbody⟩ := h
  induction body with
  | nil => simp [lines]
  | cons b body ih =>
    have hb : b ≠ 10 := fun heq => hbody (heq ▸ List.mem_cons_self)
    have hrest := ih fun hmem => hbody (List.mem_cons_of_mem b hmem)
    simp only [List.cons_append, List.append_assoc] at hrest ⊢
    rw [lines, if_neg hb, hrest]

/-- **Lines that follow each other are told apart again.** -/
theorem lines_flatten : ∀ {ls : List (List UInt8)}, (∀ l ∈ ls, IsLine l) → lines ls.flatten = ls
  | [], _ => rfl
  | l :: ls, h => by
    have ih := lines_flatten fun x hx => h x (List.mem_cons_of_mem l hx)
    rw [List.flatten_cons, lines_append (h l List.mem_cons_self), ih]

end Stream

end LightHub
