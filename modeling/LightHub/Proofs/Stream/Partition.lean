/-
  Streams that are read line by line, to their end and past it.

  * `Chunks`: lines, of which only the last may lack its newline; `chunks_lines`: a
    stream is cut into such lines.
  * `ReadsAs`: what a line is read as, a text or not; `lineText_eq_iff`: nothing else is
    read.
  * `readLines`: the first reads of a stream, failures included.
  * `readLines_of_le`, `readLines_length_add`: the reads, as far as there are lines, and
    past that.
  * `readLines_partition`: **reading line by line partitions the stream.**
-/
import LightHub.Proofs.Stream.Body
import Mathlib.Data.List.Forall2

namespace LightHub.Stream

/-! ## Lines of a stream -/

/-- Lines that each end at their only newline.  The last one may end with the stream. -/
inductive Chunks : List (List UInt8) → Prop
  | nil : Chunks []
  | last {l : List UInt8} : l ≠ [] → 10 ∉ l → Chunks [l]
  | cons {l : List UInt8} {ls : List (List UInt8)} : IsLine l → Chunks ls → Chunks (l :: ls)

theorem IsLine.cons {b : UInt8} {l : List UInt8} (hb : b ≠ 10) (h : IsLine l) :
    IsLine (b :: l) := by
  obtain ⟨body, rfl, hbody⟩ := h
  exact ⟨b :: body, rfl, List.not_mem_cons_of_ne_of_not_mem hb.symm hbody⟩

/-- A byte in front of a stream that is no newline belongs to its first line. -/
theorem Chunks.lengthen {b : UInt8} {l : List UInt8} {ls : List (List UInt8)} (hb : b ≠ 10)
    (h : Chunks (l :: ls)) : Chunks ((b :: l) :: ls) := by
  cases h with
  | last _ hl =>
    exact .last (List.cons_ne_nil b l) (List.not_mem_cons_of_ne_of_not_mem hb.symm hl)
  | cons hl hls => exact .cons (hl.cons hb) hls

theorem chunks_lines (s : List UInt8) : Chunks (lines s) := by
  induction s with
  | nil => exact .nil
  | cons b rest ih =>
    by_cases hb : b = 10
    · rw [lines, if_pos hb, hb]
      exact .cons ⟨[], rfl, List.not_mem_nil⟩ ih
    · rw [lines, if_neg hb]
      cases hlines : lines rest with
      | nil => exact .last (List.cons_ne_nil b []) (by simpa using Ne.symm hb)
      | cons l ls =>
        rw [hlines] at ih
        exact ih.lengthen hb

/-! ## Lines as texts -/

/-- A character that ends a line, or stands before its newline. -/
def EndsLine (c : Char) : Prop :=
  c = '\n' ∨ c = '\r'

/-- What the bytes of a line are read as: their text without all the newlines and
    carriage returns at its end, unless they are not UTF-8. -/
inductive ReadsAs : List UInt8 → Except Fault String → Prop
  | text {kept ending : String} : (∀ c ∈ ending.toList, EndsLine c) →
      (∀ c ∈ kept.toList.getLast?, ¬ EndsLine c) → ReadsAs (Text.bytes (kept ++ ending)) (.ok kept)
  | notUtf8 {l : List UInt8} :
      (∀ t : String, l ≠ Text.bytes t) → ReadsAs l (.error (.transport .notUtf8))

theorem dropLineEnd_eq_iff {t kept : String} :
    dropLineEnd t = kept ↔ ∃ ending : String, t = kept ++ ending ∧
      (∀ c ∈ ending.toList, EndsLine c) ∧ ∀ c ∈ kept.toList.getLast?, ¬ EndsLine c := by
  rw [dropLineEnd, ← String.toList_inj, String.toList_ofList, Text.dropEnd_eq_iff]
  simp only [decide_eq_true_iff, decide_eq_false_iff_not]
  constructor
  · rintro ⟨ys, ht, hys, hkept⟩
    refine ⟨String.ofList ys, ?_, ?_, hkept⟩
    · rw [← String.toList_inj, ht, String.toList_append, String.toList_ofList]
    · rwa [String.toList_ofList]
  · rintro ⟨ending, rfl, hending, hkept⟩
    exact ⟨ending.toList, String.toList_append, hending, hkept⟩

/-- The bytes of a line are read as one thing only. -/
theorem lineText_eq_iff {l : List UInt8} {r : Except Fault String} :
    lineText l = r ↔ ReadsAs l r := by
  constructor
  · rintro rfl
    unfold lineText
    split
    · rename_i t ht
      obtain ⟨ending, happend, hending, hkept⟩ := dropLineEnd_eq_iff.1 (rfl : dropLineEnd t = _)
      have hline := ReadsAs.text hending hkept
      rwa [← happend, ← Text.ofBytes?_eq_some_iff.1 ht] at hline
    · rename_i hnone
      refine .notUtf8 fun t ht => ?_
      rw [Text.ofBytes?_eq_some_iff.2 ht] at hnone
      cases hnone
  · rintro (⟨hending, hkept⟩ | hl)
    · rw [lineText, Text.ofBytes?_bytes]
      exact congrArg Except.ok (dropLineEnd_eq_iff.2 ⟨_, rfl, hending, hkept⟩)
    · cases hread : Text.ofBytes? l with
      | none => rw [lineText, hread]
      | some t => exact absurd (Text.ofBytes?_eq_some_iff.1 hread) (hl t)

theorem forall₂_readsAs (ls : List (List UInt8)) : List.Forall₂ ReadsAs ls (ls.map lineText) := by
  rw [List.forall₂_map_right_iff, List.forall₂_same]
  exact fun l _ => lineText_eq_iff.1 rfl

/-! ## Reading on -/

/-- The first `n` reads of a stream, and what is unread after them.  A read that fails
    does not end it. -/
def readLines : Nat → List UInt8 → List (Except Fault String) × List UInt8
  | 0, s => ([], s)
  | n + 1, s =>
    let (result, rest) := readLine s
    let (results, last) := readLines n rest
    (result :: results, last)

theorem readLines_succ {s rest : List UInt8} {r : Except Fault String}
    (h : readLine s = (r, rest)) (n : Nat) :
    readLines (n + 1) s = (r :: (readLines n rest).1, (readLines n rest).2) := by
  rw [readLines, h]

/-- Reading on after some reads. -/
theorem readLines_add (m n : Nat) (s : List UInt8) :
    readLines (m + n) s =
      ((readLines m s).1 ++ (readLines n (readLines m s).2).1,
        (readLines n (readLines m s).2).2) := by
  induction m generalizing s with
  | zero => rw [Nat.zero_add]; rfl
  | succ m ih =>
    rcases hread : readLine s with ⟨r, rest⟩
    rw [Nat.add_right_comm, readLines_succ hread, readLines_succ hread, ih rest]
    rfl

/-- At the end of a stream every read says so. -/
theorem readLines_nil (n : Nat) :
    readLines n [] = (List.replicate n (.error (.transport .ended)), []) := by
  induction n with
  | zero => rfl
  | succ n ih =>
    have hended : readLine [] = (.error (.transport .ended), []) := rfl
    rw [readLines_succ hended, ih, List.replicate_succ]

/-- As far as there are lines, each read takes the next one. -/
theorem readLines_of_le {s : List UInt8} {n : Nat} (h : n ≤ (lines s).length) :
    readLines n s = (((lines s).map lineText).take n, ((lines s).drop n).flatten) := by
  induction n generalizing s with
  | zero => rw [List.take_zero, List.drop_zero, flatten_lines, readLines]
  | succ n ih =>
    have hs : s ≠ [] := by
      rintro rfl
      cases h
    have hread := readLine_of_splitLine hs (rfl : splitLine s = (_, _))
    rw [lines_of_ne_nil hs] at h ⊢
    rw [readLines_succ hread, ih (Nat.le_of_succ_le_succ h), List.map_cons, List.take_succ_cons,
      List.drop_succ_cons]

/-- Past that, every read says that the stream has ended. -/
theorem readLines_length_add (s : List UInt8) (n : Nat) :
    readLines ((lines s).length + n) s =
      ((lines s).map lineText ++ List.replicate n (.error (.transport .ended)), []) := by
  have hall : readLines (lines s).length s = ((lines s).map lineText, []) := by
    rw [readLines_of_le (Nat.le_refl _), List.drop_length, List.flatten_nil,
      List.take_of_length_le (Nat.le_of_eq (List.length_map _))]
  rw [readLines_add, hall, readLines_nil]

/-- The lines of texts are read as these texts. -/
theorem readLines_bodyBytes {body : List Ended} (h : ∀ l ∈ body, LineText l.1)
    (rest : List UInt8) :
    readLines body.length (bodyBytes body ++ rest) = (body.map fun l => .ok l.1, rest) := by
  induction body with
  | nil => rfl
  | cons l body ih =>
    have hread := readLine_lineBytes (h l List.mem_cons_self) l.2 (bodyBytes body ++ rest)
    rw [bodyBytes_cons, List.append_assoc, List.length_cons, readLines_succ hread,
      ih fun m hm => h m (List.mem_cons_of_mem l hm), List.map_cons]

/-- **Reading line by line partitions the stream.**  The stream is the chunks that end at
    each newline, and at its own end.  Each read takes the next chunk, also if it is not
    UTF-8, and once there is none left every read says that the stream has ended.  So
    texts that lines can carry are read back in order, whatever carriage returns stand
    before their newlines. -/
theorem readLines_partition (s : List UInt8) :
    (lines s).flatten = s ∧ Chunks (lines s) ∧
      (∃ results, List.Forall₂ ReadsAs (lines s) results ∧
        (∀ n ≤ results.length,
          readLines n s = (results.take n, ((lines s).drop n).flatten)) ∧
        ∀ n, readLines (results.length + n) s =
          (results ++ List.replicate n (.error (.transport .ended)), [])) ∧
      ∀ body : List Ended, (∀ l ∈ body, LineText l.1) → s = bodyBytes body →
        ∀ n, readLines (body.length + n) s =
          ((body.map fun l => .ok l.1) ++ List.replicate n (.error (.transport .ended)), []) := by
  have hlength : ((lines s).map lineText).length = (lines s).length := List.length_map _
  refine ⟨flatten_lines s, chunks_lines s, ⟨_, forall₂_readsAs (lines s), ?_, ?_⟩, ?_⟩
  · intro n hn
    exact readLines_of_le (hlength ▸ hn)
  · intro n
    rw [hlength]
    exact readLines_length_add s n
  · rintro body hbody rfl n
    have hread := readLines_bodyBytes hbody []
    rw [List.append_nil] at hread
    rw [readLines_add, hread, readLines_nil]

/-- A line that is not UTF-8 is consumed, empty lines are lines, a carriage return within
    a line is kept, and the last line needs no newline. -/
example : (readLines 5 (0xFF :: 10 :: 10 :: Text.bytes "a\rb\r\r\nc")).1 =
    [.error (.transport .notUtf8), .ok "", .ok "a\rb", .ok "c", .error (.transport .ended)] :=
  rfl

end LightHub.Stream
