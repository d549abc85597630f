/-
  Bodies with and without a count, on every stream.

  * `Gathers`: texts that are read line by line, none of them the sentinel.
  * `Halts`: nothing more can be gathered: the sentinel comes next, or no text.
  * `exists_gathers_halts`: every stream is gathered up to where it halts.
  * `readCounted_append`: a counted body goes through the lines that are gathered;
    `Gathers.rest_eq`: they are the first lines of the stream.
  * `readBody_agree`: **a body with a count is the front of the body without one**,
    and where the one falls short the other has halted.
-/
import LightHub.Proofs.Stream.Reading

namespace LightHub.Stream

/-! ## Lines -/

/-- The first line of a stream is the one that is read first. -/
theorem lines_of_ne_nil {s : List UInt8} (h : s ≠ []) :
    lines s = (splitLine s).1 :: lines (splitLine s).2 := by
  induction s with
  | nil => exact absurd rfl h
  | cons b rest ih =>
    by_cases hb : b = 10
    · simp only [lines, splitLine, if_pos hb]
    · cases rest with
      | nil => simp only [lines, splitLine, if_neg hb]
      | cons c rest =>
        rw [lines, splitLine, if_neg hb, if_neg hb, ih (List.cons_ne_nil c rest)]

/-- Cutting a stream into lines loses nothing. -/
theorem flatten_lines (s : List UInt8) : (lines s).flatten = s := by
  induction s with
  | nil => rfl
  | cons b rest ih =>
    by_cases hb : b = 10
    · simp only [lines, if_pos hb, List.flatten_cons, ih, List.singleton_append]
    · rw [lines, if_neg hb]
      cases hlines : lines rest with
      | nil =>
        rw [hlines] at ih
        simp [← ih]
      | cons l ls =>
        rw [hlines] at ih
        simp [← ih]

/-- A line that reads as a text is the first line of the stream. -/
theorem lines_of_readLine {s mid : List UInt8} {l : String} (h : readLine s = (.ok l, mid)) :
    lines s = (splitLine s).1 :: lines mid := by
  have hne : s ≠ [] := by
    rintro rfl
    cases h
  have hmid : (splitLine s).2 = mid :=
    congrArg Prod.snd ((readLine_of_splitLine hne rfl).symm.trans h)
  rw [lines_of_ne_nil hne, hmid]

/-! ## Gathering -/

/-- The texts are read from the stream line by line, none of them is the sentinel, and
    `rest` is left. -/
inductive Gathers : List UInt8 → List String → List UInt8 → Prop
  | nil (s : List UInt8) : Gathers s [] s
  | cons {s mid rest : List UInt8} {l : String} {ls : List String} :
      readLine s = (.ok l, mid) → l ≠ sentinel → Gathers mid ls rest → Gathers s (l :: ls) rest

/-- Nothing more can be gathered: the sentinel is read next, or there is no text to
    read.  `rest` is left after that. -/
inductive Halts : List UInt8 → Except Fault Unit → List UInt8 → Prop
  | sentinel {s rest : List UInt8} :
      readLine s = (.ok Stream.sentinel, rest) → Halts s (.ok ()) rest
  | fault {s rest : List UInt8} {e : Fault} :
      readLine s = (.error e, rest) → Halts s (.error e) rest

/-- Every stream is gathered up to where it halts. -/
theorem exists_gathers_halts (s : List UInt8) :
    ∃ ls last stop rest, Gathers s ls last ∧ Halts last stop rest := by
  -- by induction on how much is unread: every line takes at least a byte
  induction hlength : s.length using Nat.strongRecOn generalizing s with
  | ind n ih =>
    rcases hread : readLine s with ⟨e | l, mid⟩
    · exact ⟨[], s, _, mid, .nil s, .fault hread⟩
    · by_cases hl : l = sentinel
      · subst hl
        exact ⟨[], s, _, mid, .nil s, .sentinel hread⟩
      · have hne : s ≠ [] := by
          rintro rfl
          cases hread
        have hlt : mid.length < n := by
          have hshort := length_readLine_lt hne
          rwa [hread, hlength] at hshort
        obtain ⟨ls, last, stop, rest, hls, hstop⟩ := ih mid.length hlt mid rfl
        exact ⟨l :: ls, last, stop, rest, .cons hread hl hls, hstop⟩

namespace Gathers

variable {s last rest : List UInt8} {ls : List String} {stop : Except Fault Unit}

/-- What is left is the stream without as many lines as have been gathered. -/
theorem rest_eq (h : Gathers s ls rest) : rest = ((lines s).drop ls.length).flatten := by
  induction h with
  | nil s => rw [List.length_nil, List.drop_zero, flatten_lines]
  | cons hread _ _ ih => rw [lines_of_readLine hread, List.length_cons, List.drop_succ_cons, ← ih]

/-- The first texts can be gathered alone. -/
theorem take (h : Gathers s ls rest) (k : Nat) : ∃ mid, Gathers s (ls.take k) mid := by
  induction h generalizing k with
  | nil s => exact ⟨s, by rw [List.take_nil]; exact .nil s⟩
  | @cons s _ _ _ _ hread hl _ ih =>
    cases k with
    | zero => exact ⟨s, .nil s⟩
    | succ k =>
      obtain ⟨mid, hmid⟩ := ih k
      exact ⟨mid, .cons hread hl hmid⟩

theorem sentinel_notMem (h : Gathers s ls rest) : sentinel ∉ ls := by
  induction h with
  | nil => exact List.not_mem_nil
  | cons _ hl _ ih => exact List.not_mem_cons_of_ne_of_not_mem hl.symm ih

/-- A body without a count is what can be gathered, unless there is no sentinel. -/
theorem readToSentinel (h : Gathers s ls last) (hstop : Halts last stop rest) :
    readToSentinel s = (stop.map fun _ => ls, rest) := by
  induction h with
  | nil s =>
    cases hstop with
    | sentinel hread => rw [readToSentinel_of_readLine hread, if_pos rfl]; rfl
    | fault hread => exact readToSentinel_of_readLine_error hread
  | cons hread hl _ ih =>
    rw [readToSentinel_of_readLine hread, if_neg hl, ih hstop]
    cases stop <;> rfl

/-- A counted body goes through what can be gathered. -/
theorem readCounted_append (h : Gathers s ls last) (total left : Nat) :
    readCounted total (ls.length + left) s =
      ((readCounted total left last).1.map (ls ++ ·), (readCounted total left last).2) := by
  induction h with
  | nil s =>
    rw [List.length_nil, Nat.zero_add]
    rcases readCounted total left s with ⟨e | texts, rest⟩ <;> rfl
  | @cons _ _ last _ _ hread hl _ ih =>
    rw [List.length_cons, Nat.add_right_comm, readCounted, hread]
    simp only [if_neg hl, ih]
    rcases readCounted total left last with ⟨e | texts, rest⟩ <;> rfl

/-- A counted body that is there in full is read in full. -/
theorem readCounted (h : Gathers s ls rest) (total : Nat) :
    readCounted total ls.length s = (.ok ls, rest) := by
  have happend := h.readCounted_append total 0
  rwa [Nat.add_zero, Stream.readCounted, Except.map, List.append_nil] at happend

/-- A counted body that is not there in full fails where nothing more can be gathered. -/
theorem readCounted_of_length_lt (h : Gathers s ls last) (hstop : Halts last stop rest) {k : Nat}
    (hk : ls.length < k) : Stream.readCounted k k s =
      (stop.bind fun _ => .error (.malformed (.bodyEnded ls.length k)), rest) := by
  obtain ⟨more, rfl⟩ := Nat.exists_eq_add_of_lt hk
  rw [Nat.add_assoc, h.readCounted_append]
  have hgot : ls.length + (more + 1) - (more + 1) = ls.length := Nat.add_sub_cancel _ _
  cases hstop with
  | sentinel hread =>
    rw [Stream.readCounted, hread]
    simp only [if_true, hgot]
    rfl
  | fault hread =>
    rw [Stream.readCounted, hread]
    rfl

end Gathers

/-! ## Bodies -/

/-- **A body with a count is the front of the body without one.**  Let `texts` be what
    can be gathered from a stream until it halts.  The body without a count is all of
    them, or the fault at which the stream halts.  A body of at most as many lines is
    the first of them, and takes just these lines off the stream.  A longer one fails
    where the other body has ended, at the same fault if it has failed too.  So no
    counted body is short, and none holds the sentinel. -/
theorem readBody_agree (s : List UInt8) :
    ∃ texts last stop rest, Gathers s texts last ∧ Halts last stop rest ∧
      readBody .sentinel s = (stop.map fun _ => texts, rest) ∧
      (∀ k ≤ texts.length,
        readBody (.count k) s = (.ok (texts.take k), ((lines s).drop k).flatten)) ∧
      (∀ k > texts.length, readBody (.count k) s =
        (stop.bind fun _ => .error (.malformed (.bodyEnded texts.length k)), rest)) ∧
      ∀ k body left, readBody (.count k) s = (.ok body, left) →
        body.length = k ∧ sentinel ∉ body := by
  obtain ⟨texts, last, stop, rest, hgathers, hstop⟩ := exists_gathers_halts s
  have hfront : ∀ k ≤ texts.length,
      readBody (.count k) s = (.ok (texts.take k), ((lines s).drop k).flatten) := by
    intro k hk
    obtain ⟨mid, hmid⟩ := hgathers.take k
    have hread := hmid.readCounted k
    rwa [hmid.rest_eq, List.length_take_of_le hk] at hread
  have hlong : ∀ k > texts.length, readBody (.count k) s =
      (stop.bind fun _ => .error (.malformed (.bodyEnded texts.length k)), rest) :=
    fun k hk => hgathers.readCounted_of_length_lt hstop hk
  refine ⟨texts, last, stop, rest, hgathers, hstop, hgathers.readToSentinel hstop, hfront, hlong,
    ?_⟩
  intro k body left hbody
  rcases Nat.lt_or_ge texts.length k with hk | hk
  · rw [hlong k hk] at hbody
    cases hstop <;> cases hbody
  · rw [hfront k hk] at hbody
    obtain rfl := Except.ok.inj (Prod.mk.inj hbody).1
    exact ⟨List.length_take_of_le hk,
      fun hmem => hgathers.sentinel_notMem (List.mem_of_mem_take hmem)⟩

end LightHub.Stream
