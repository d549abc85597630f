/-
  IPv6 addresses, written and read.

  * `readGroup_toDigits`: a group reads back from its digits.
  * `Halts`: where a row of groups ends; `readGroups_groupsText`: a row of groups
    reads back up to such a place.
  * `longestZeros_spec`: the run of zeros that is left out.
  * `readIPv6_ipv6Text`: **an address reads back from its shortest form.**
  * `parseIP?_ipText`: so does an address of either family.
-/
import LightHub.Net.Address
import LightHub.Proofs.Net.Ipv4

namespace LightHub.Net

open Std.Net

/-! ## Groups -/

/-- The end of a text, or a colon. -/
def AtColon (rest : List Char) : Prop :=
  ∀ c ∈ rest.head?, c = ':'

variable {rest : List Char}

theorem atColon_nil : AtColon [] := nofun

theorem atColon_cons (rest : List Char) : AtColon (':' :: rest) := by
  rintro _ ⟨⟩
  rfl

theorem AtColon.takeWhile {p : Char → Bool} (h : AtColon rest) (hp : p ':' = false) :
    rest.takeWhile p = [] := by
  cases rest with
  | nil => rfl
  | cons c rest =>
    obtain rfl : c = ':' := h c rfl
    rw [List.takeWhile_cons, hp]
    rfl

/-- No IPv4 address starts with a group that ends at a colon. -/
theorem readIPv4_of_atColon {w : List Char} (hw : '.' ∉ w) (h : AtColon rest) :
    readIPv4 (w ++ rest) = none := by
  apply readIPv4_eq_none
  induction w with
  | nil =>
    cases rest with
    | nil => exact nofun
    | cons c rest =>
      obtain rfl : c = ':' := h c rfl
      exact fun heq => absurd (Option.some.inj heq) (by decide)
  | cons c w ih =>
    rw [List.mem_cons, not_or] at hw
    rw [List.cons_append, List.dropWhile_cons]
    split
    · exact ih hw.2
    · exact fun heq => hw.1 (Option.some.inj heq).symm

theorem isSome_of_mem_toDigits {n : Nat} {c : Char} (h : c ∈ Nat.toDigits 16 n) :
    (Text.hexDigit? c).isSome = true :=
  Text.isSome_hexDigit? (Text.hexFrom?_toDigits n) c h

theorem dot_notMem_toDigits (n : Nat) : '.' ∉ Nat.toDigits 16 n := by
  intro h
  exact absurd (isSome_of_mem_toDigits h) (by decide)

/-- A group reads back from its digits. -/
theorem readGroup_toDigits (g : UInt16) (h : AtColon rest) :
    readGroup (Nat.toDigits 16 g.toNat ++ rest) = some (g, rest) := by
  have hrun : (Nat.toDigits 16 g.toNat ++ rest).takeWhile (fun c => (Text.hexDigit? c).isSome) =
      Nat.toDigits 16 g.toNat :=
    Text.takeWhile_run (fun _ => isSome_of_mem_toDigits) (h.takeWhile rfl)
  have hlength : (Nat.toDigits 16 g.toNat).length ≤ 4 := by
    rw [Nat.length_toDigits_le_iff (by decide) (by decide)]
    exact g.toNat_lt
  simp only [readGroup, hrun, if_neg (Nat.not_lt.2 hlength), Text.hex?_toDigits, Option.map_some,
    UInt16.ofNat_toNat, List.drop_left]

theorem readGroup_of_atColon (h : AtColon rest) : readGroup rest = none := by
  have hrun := h.takeWhile (p := fun c => (Text.hexDigit? c).isSome) rfl
  simp only [readGroup, hrun]
  rfl

/-! ## Rows of groups -/

/-- Groups as they follow on another one. -/
def colonGroups (gs : List UInt16) : List Char :=
  gs.flatMap fun g => ':' :: Nat.toDigits 16 g.toNat

theorem toList_groupsText (g : UInt16) (gs : List UInt16) :
    (groupsText (g :: gs)).toList = Nat.toDigits 16 g.toNat ++ colonGroups gs := by
  induction gs generalizing g with
  | nil => simp [groupsText, colonGroups]
  | cons h gs ih =>
    have htail := ih h
    simp only [groupsText, List.map_cons] at htail ⊢
    rw [String.intercalate_cons_cons]
    simp [htail, colonGroups]

/-- No group comes next: the text ends, or a run of zeros is left out. -/
def Halts (rest : List Char) : Prop :=
  rest = [] ∨ ∃ more, rest = ':' :: ':' :: more

theorem Halts.atColon (h : Halts rest) : AtColon rest := by
  rcases h with rfl | ⟨more, rfl⟩
  · exact atColon_nil
  · exact atColon_cons _

theorem atColon_colonGroups (gs : List UInt16) (h : AtColon rest) :
    AtColon (colonGroups gs ++ rest) := by
  cases gs with
  | nil => exact h
  | cons g gs => exact atColon_cons _

section

variable {s : List Char} {start : Bool} {left : Nat}

theorem readGroups_of_none {limit : Nat} (hv4 : spaced start readIPv4 s = none)
    (hgroup : spaced start readGroup s = none) :
    readGroups limit start s = ([], false, s) := by
  cases limit with
  | zero => rfl
  | succ left => simp [readGroups, hv4, hgroup]

theorem readGroups_of_ipv4 {a : IPv4Addr} (hleft : left ≠ 0)
    (hv4 : spaced start readIPv4 s = some (a, rest)) :
    readGroups (left + 1) start s = (groupsOfIPv4 a, true, rest) := by
  simp [readGroups, hleft, hv4]

/-- What stands in front of a group. -/
def lead (start : Bool) : List Char :=
  if start then [] else [':']

theorem spaced_lead {α : Type} (read : List Char → Option (α × List Char)) :
    spaced start read (lead start ++ s) = read s := by
  cases start with
  | true => rfl
  | false => rfl

/-- A group is read, and then the others. -/
theorem readGroups_group (g : UInt16) (h : AtColon rest) :
    readGroups (left + 1) start (lead start ++ (Nat.toDigits 16 g.toNat ++ rest)) =
      (g :: (readGroups left false rest).1, (readGroups left false rest).2) := by
  have hv4 : readIPv4 (Nat.toDigits 16 g.toNat ++ rest) = none :=
    readIPv4_of_atColon (dot_notMem_toDigits _) h
  simp [readGroups, spaced_lead, hv4, readGroup_toDigits g h]

end

/-- Where a row ends, what can only be read away from a colon is not read. -/
theorem Halts.spaced_eq_none {α : Type} {read : List Char → Option (α × List Char)}
    (hread : ∀ {s : List Char}, AtColon s → read s = none) (h : Halts rest) (start : Bool) :
    spaced start read rest = none := by
  cases start with
  | true => exact hread h.atColon
  | false =>
    rcases h with rfl | ⟨more, rfl⟩
    · rfl
    · exact hread (atColon_cons more)

/-- Where a row ends, neither an address nor a group can be read. -/
theorem Halts.readGroups (h : Halts rest) (limit : Nat) (start : Bool) :
    readGroups limit start rest = ([], false, rest) :=
  readGroups_of_none (h.spaced_eq_none (readIPv4_of_atColon (w := []) List.not_mem_nil) start)
    (h.spaced_eq_none readGroup_of_atColon start)

theorem readGroups_colonGroups {gs : List UInt16} {limit : Nat} (hlength : gs.length ≤ limit)
    (h : Halts rest) : readGroups limit false (colonGroups gs ++ rest) = (gs, false, rest) := by
  induction gs generalizing limit with
  | nil => exact h.readGroups limit false
  | cons g gs ih =>
    obtain ⟨left, rfl⟩ := Nat.exists_eq_add_one.2 (Nat.zero_lt_of_lt hlength)
    have hrow : colonGroups (g :: gs) ++ rest =
        lead false ++ (Nat.toDigits 16 g.toNat ++ (colonGroups gs ++ rest)) := by
      simp [colonGroups, lead]
    rw [hrow, readGroups_group g (atColon_colonGroups gs h.atColon),
      ih (Nat.le_of_succ_le_succ hlength)]

/-- **A row of groups reads back from its text.** -/
theorem readGroups_groupsText {gs : List UInt16} {limit : Nat} (hlength : gs.length ≤ limit)
    (h : Halts rest) :
    readGroups limit true ((groupsText gs).toList ++ rest) = (gs, false, rest) := by
  cases gs with
  | nil =>
    rw [groupsText, List.map_nil, String.intercalate_nil]
    exact h.readGroups limit true
  | cons g gs =>
    obtain ⟨left, rfl⟩ := Nat.exists_eq_add_one.2 (Nat.zero_lt_of_lt hlength)
    have hrow : (groupsText (g :: gs)).toList ++ rest =
        lead true ++ (Nat.toDigits 16 g.toNat ++ (colonGroups gs ++ rest)) := by
      simp [toList_groupsText, lead]
    rw [hrow, readGroups_group g (atColon_colonGroups gs h.atColon),
      readGroups_colonGroups (Nat.le_of_succ_le_succ hlength) h]

/-! ## Runs of zeros -/

/-- The zeros in front of a row. -/
theorem eq_replicate_append_drop (gs : List UInt16) :
    gs = List.replicate (gs.takeWhile (· = 0)).length 0 ++
      gs.drop (gs.takeWhile (· = 0)).length := by
  induction gs with
  | nil => rfl
  | cons g gs ih =>
    by_cases hg : g = 0
    · have hrun : (g :: gs).takeWhile (· = 0) = g :: gs.takeWhile (· = 0) := by simp [hg]
      rw [hrun, List.length_cons, List.replicate_succ, List.drop_succ_cons, List.cons_append, ← ih,
        hg]
    · simp [hg]

/-- The run of zeros that is left out: what is before it, the zeros, and what is
    after it. -/
theorem longestZeros_spec (gs : List UInt16) :
    gs = gs.take (longestZeros gs).1 ++ (List.replicate (longestZeros gs).2 0 ++
      gs.drop ((longestZeros gs).1 + (longestZeros gs).2)) := by
  induction gs with
  | nil => rfl
  | cons g gs ih =>
    simp only [longestZeros]
    split
    · rw [List.take_zero, List.nil_append, Nat.zero_add]
      exact eq_replicate_append_drop (g :: gs)
    · rw [Nat.add_right_comm, List.take_succ_cons, List.drop_succ_cons, List.cons_append, ← ih]

/-! ## Addresses -/

theorem ipv6OfGroups_segments (a : IPv6Addr) : ipv6OfGroups a.segments.toList = a := by
  obtain ⟨⟨⟨segments⟩, h⟩⟩ := a
  match segments, h with
  | [_, _, _, _, _, _, _, _], _ => rfl

/-- An address with zeros left out, from the rows before and after them. -/
theorem readIPv6_of_rows {s more rest : List Char} {head tail : List UInt16} {dotted : Bool}
    (hlength : head.length < 8) (hhead : readGroups 8 true s = (head, false, ':' :: ':' :: more))
    (htail : readGroups (7 - head.length) true more = (tail, dotted, rest)) :
    readIPv6 s = some (ipv6OfGroups
      (head ++ List.replicate (8 - head.length - tail.length) 0 ++ tail), rest) := by
  have hne : head.length ≠ 8 := Nat.ne_of_lt hlength
  simp [readIPv6, hhead, htail, hne]

theorem readIPv6_of_gap {head tail : List UInt16} (hlength : head.length + tail.length < 8) :
    readIPv6 ((groupsText head).toList ++ (':' :: ':' :: (groupsText tail).toList)) =
      some (ipv6OfGroups
        (head ++ List.replicate (8 - head.length - tail.length) 0 ++ tail), []) := by
  have hgap : Halts (':' :: ':' :: (groupsText tail).toList) := .inr ⟨_, rfl⟩
  have hhead : readGroups 8 true
      ((groupsText head).toList ++ (':' :: ':' :: (groupsText tail).toList)) = _ :=
    readGroups_groupsText (by omega) hgap
  have htail : readGroups (7 - head.length) true ((groupsText tail).toList ++ []) = _ :=
    readGroups_groupsText (by omega) (.inl rfl)
  rw [List.append_nil] at htail
  exact readIPv6_of_rows (by omega) hhead htail

theorem readIPv6_of_groups {gs : List UInt16} (hlength : gs.length = 8) :
    readIPv6 (groupsText gs).toList = some (ipv6OfGroups gs, []) := by
  have hgroups : readGroups 8 true ((groupsText gs).toList ++ []) = _ :=
    readGroups_groupsText (by omega) (.inl rfl)
  rw [List.append_nil] at hgroups
  simp [readIPv6, hgroups, hlength]

/-! ## IPv4 addresses in the last groups -/

/-- A group is its two bytes. -/
theorem or_bytes (g : UInt16) :
    (g >>> 8).toUInt8.toUInt16 <<< 8 ||| g.toUInt8.toUInt16 = g := by
  have hlt := g.toNat_lt
  have hhigh : g.toNat / 256 % 256 = g.toNat / 256 := Nat.mod_eq_of_lt (by omega)
  have hshift : (g.toNat / 256) <<< 8 = g.toNat / 256 * 256 := Nat.shiftLeft_eq _ _
  have hfits : (g.toNat / 256) <<< 8 % 65536 = (g.toNat / 256) <<< 8 :=
    Nat.mod_eq_of_lt (by omega)
  have hlow : g.toNat % 256 < 2 ^ 8 := Nat.mod_lt _ (by decide)
  have hnat : (g.toNat / 256 % 256) <<< 8 % 65536 ||| g.toNat % 256 = g.toNat := by
    rw [hhigh, hfits, ← Nat.shiftLeft_add_eq_or_of_lt hlow, hshift]
    omega
  rw [← UInt16.toNat_inj]
  simpa [Nat.shiftRight_eq_div_pow] using hnat

/-- The groups of an IPv4 address that stands for two groups. -/
theorem groupsOfIPv4_ofParts (high low : UInt16) :
    groupsOfIPv4 (.ofParts (high >>> 8).toUInt8 high.toUInt8 (low >>> 8).toUInt8 low.toUInt8) =
      [high, low] := by
  simp only [groupsOfIPv4, IPv4Addr.ofParts, Vector.toList_mk, or_bytes]

theorem eq_of_mappedIPv4? {gs : List UInt16} {a : IPv4Addr} (h : mappedIPv4? gs = some a) :
    gs = [0, 0, 0, 0, 0, 0xFFFF] ++ groupsOfIPv4 a := by
  unfold mappedIPv4? at h
  split at h
  next high low =>
    obtain rfl := Option.some.inj h
    rw [groupsOfIPv4_ofParts]
    rfl
  next => cases h

/-- The address with an IPv4 address in its last two groups. -/
theorem readIPv6_of_mapped (a : IPv4Addr) :
    readIPv6 ("::ffff:" ++ ipv4Text a).toList =
      some (ipv6OfGroups ([0, 0, 0, 0, 0, 0xFFFF] ++ groupsOfIPv4 a), []) := by
  have hdigits : Nat.toDigits 16 65535 = ['f', 'f', 'f', 'f'] := by decide
  have htext : ("::ffff:" ++ ipv4Text a).toList = ':' :: ':' :: (lead true ++
      (Nat.toDigits 16 (0xFFFF : UInt16).toNat ++ ':' :: (ipv4Text a).toList)) := by
    simp [hdigits, lead]
  have hv4 : spaced false readIPv4 (':' :: (ipv4Text a).toList) = some (a, []) := by
    have hread := readIPv4_ipv4Text a Text.noDigit_nil
    rwa [List.append_nil] at hread
  have htail : readGroups 7 true (lead true ++
      (Nat.toDigits 16 (0xFFFF : UInt16).toNat ++ ':' :: (ipv4Text a).toList)) = _ :=
    readGroups_group 0xFFFF (atColon_cons (ipv4Text a).toList)
  rw [readGroups_of_ipv4 (by decide) hv4] at htail
  have hlength : (groupsOfIPv4 a).length = 2 := by
    obtain ⟨b, c, d, e, rfl⟩ := IPv4Addr.exists_ofParts a
    rfl
  have hhead : readGroups 8 true ("::ffff:" ++ ipv4Text a).toList = ([], false, ':' :: ':' ::
      (lead true ++ (Nat.toDigits 16 (0xFFFF : UInt16).toNat ++ ':' :: (ipv4Text a).toList))) := by
    rw [htext]
    exact Halts.readGroups (.inr ⟨_, rfl⟩) 8 true
  rw [readIPv6_of_rows (by decide) hhead htail]
  simp [hlength, List.replicate]

/-- **An address reads back from its shortest form.** -/
theorem readIPv6_ipv6Text (a : IPv6Addr) : readIPv6 (ipv6Text a).toList = some (a, []) := by
  have hlength : a.segments.toList.length = 8 := a.segments.length_toList
  have hgroups : ipv6OfGroups a.segments.toList = a := ipv6OfGroups_segments a
  rw [ipv6Text]
  cases hmapped : mappedIPv4? a.segments.toList with
  | some v4 =>
    rw [eq_of_mappedIPv4? hmapped] at hgroups
    exact (readIPv6_of_mapped v4).trans (by rw [hgroups])
  | none =>
    have hspec := longestZeros_spec a.segments.toList
    generalize longestZeros a.segments.toList = run at hspec ⊢
    obtain ⟨start, length⟩ := run
    simp only at hspec ⊢
    split
    next hgap =>
      have hlengths := congrArg List.length hspec
      simp only [List.length_append, List.length_take, List.length_replicate, List.length_drop,
        hlength] at hlengths
      have hhead : (a.segments.toList.take start).length = start := by
        rw [List.length_take]
        omega
      have htail : (a.segments.toList.drop (start + length)).length = 8 - (start + length) := by
        rw [List.length_drop, hlength]
      have hzeros : 8 - start - (8 - (start + length)) = length := by omega
      rw [String.toList_append, String.toList_append, List.append_assoc]
      refine (readIPv6_of_gap (by omega)).trans ?_
      rw [hhead, htail, hzeros, List.append_assoc, ← hspec, hgroups]
    next => rw [readIPv6_of_groups hlength, hgroups]

/-! ## Either family -/

theorem readIPv4_groupsText (gs : List UInt16) (h : AtColon rest) :
    readIPv4 ((groupsText gs).toList ++ rest) = none := by
  cases gs with
  | nil =>
    rw [groupsText, List.map_nil, String.intercalate_nil]
    exact readIPv4_of_atColon List.not_mem_nil h
  | cons g gs =>
    rw [toList_groupsText, List.append_assoc]
    exact readIPv4_of_atColon (dot_notMem_toDigits _) (atColon_colonGroups gs h)

/-- No IPv6 address starts with an IPv4 address. -/
theorem readIPv4_ipv6Text (a : IPv6Addr) : readIPv4 (ipv6Text a).toList = none := by
  rw [ipv6Text]
  cases mappedIPv4? a.segments.toList with
  | some v4 =>
    rw [String.toList_append]
    exact readIPv4_of_atColon (w := []) List.not_mem_nil (atColon_cons _)
  | none =>
    rcases longestZeros a.segments.toList with ⟨start, length⟩
    simp only
    split
    · rw [String.toList_append, String.toList_append, List.append_assoc]
      exact readIPv4_groupsText _ (atColon_cons _)
    · have hgroups := readIPv4_groupsText a.segments.toList atColon_nil
      rwa [List.append_nil] at hgroups

/-- **An address reads back from its text.** -/
theorem parseIP?_ipText (ip : IPAddr) : parseIP? (ipText ip) = some ip := by
  cases ip with
  | v4 a =>
    have hread := readIPv4_ipv4Text a Text.noDigit_nil
    rw [List.append_nil] at hread
    simp only [parseIP?, whole, ipText, readIP, hread]
  | v6 a =>
    simp only [parseIP?, whole, ipText, readIP, readIPv4_ipv6Text, readIPv6_ipv6Text,
      Option.map_some]

end LightHub.Net
