/-
  IPv4 addresses, written and read.

  * `readOctet_toDigits`, `readIPv4_ipv4Text`: **an address reads back from its
    text**, up to where the digits end.
  * `readIPv4_eq_none`: a text that does not start with a number and a dot.
-/
import LightHub.Net.Ipv4
import LightHub.Proofs.Text.Numeral

namespace LightHub.Net

open Std.Net
open Text (NoDigit)

variable {s rest : List Char}

theorem after_cons {α : Type} (c : Char) (read : List Char → Option (α × List Char)) :
    after c read (c :: rest) = read rest :=
  if_pos rfl

theorem after_of_head?_ne {α : Type} {c : Char} (h : s.head? ≠ some c)
    (read : List Char → Option (α × List Char)) : after c read s = none := by
  cases s with
  | nil => rfl
  | cons d s => exact if_neg fun heq => h (congrArg some heq)

/-! ## Numbers -/

theorem readOctet_toDigits (n : UInt8) (h : NoDigit rest) :
    readOctet (Nat.toDigits 10 n.toNat ++ rest) = some (n, rest) := by
  have hlength : (Nat.toDigits 10 n.toNat).length ≤ 3 := by
    rw [Nat.length_toDigits_le_iff (by decide) (by decide)]
    exact Nat.lt_trans n.toNat_lt (by decide)
  have hzero : ¬ ((Nat.toDigits 10 n.toNat).head? = some '0' ∧
      1 < (Nat.toDigits 10 n.toNat).length) := by
    rintro ⟨hhead, hlt⟩
    rw [Text.length_toDigits_of_head? _ hhead] at hlt
    exact Nat.lt_irrefl 1 hlt
  have hfits : ¬ (3 < (Nat.toDigits 10 n.toNat).length ∨
      (Nat.toDigits 10 n.toNat).head? = some '0' ∧ 1 < (Nat.toDigits 10 n.toNat).length) :=
    not_or.2 ⟨Nat.not_lt.2 hlength, hzero⟩
  simp only [readOctet, Text.takeWhile_toDigits _ h, Text.dropWhile_toDigits _ h, if_neg hfits,
    Text.uint8?_toDigits, Option.map_some]

/-- What follows a number is where its digits end. -/
theorem readOctet_snd {n : UInt8} (h : readOctet s = some (n, rest)) :
    rest = s.dropWhile Char.isDigit := by
  simp only [readOctet] at h
  split at h
  · cases h
  · obtain ⟨m, -, heq⟩ := Option.map_eq_some_iff.1 h
    exact (congrArg Prod.snd heq).symm

/-! ## Addresses -/

theorem IPv4Addr.exists_ofParts (a : IPv4Addr) : ∃ b c d e, a = .ofParts b c d e := by
  obtain ⟨⟨⟨octets⟩, h⟩⟩ := a
  match octets, h with
  | [b, c, d, e], _ => exact ⟨b, c, d, e, rfl⟩

theorem toList_ipv4Text (a b c d : UInt8) :
    (ipv4Text (.ofParts a b c d)).toList =
      Nat.toDigits 10 a.toNat ++ '.' :: (Nat.toDigits 10 b.toNat ++ '.' ::
        (Nat.toDigits 10 c.toNat ++ '.' :: Nat.toDigits 10 d.toNat)) := by
  simp [ipv4Text, IPv4Addr.ofParts, String.intercalate_cons_cons, String.intercalate_singleton,
    Nat.toList_repr]

/-- **An address reads back from its text.** -/
theorem readIPv4_ipv4Text (a : IPv4Addr) (h : NoDigit rest) :
    readIPv4 ((ipv4Text a).toList ++ rest) = some (a, rest) := by
  obtain ⟨a, b, c, d, rfl⟩ := IPv4Addr.exists_ofParts a
  have hdot (cs : List Char) : NoDigit ('.' :: cs) := Text.noDigit_cons (by decide) cs
  simp only [toList_ipv4Text, List.append_assoc, List.cons_append, readIPv4,
    readOctet_toDigits _ (hdot _), after_cons, readOctet_toDigits _ h, Option.bind_eq_bind,
    Option.bind_some, Option.pure_def]

/-- A text that does not start with a number and a dot is no address. -/
theorem readIPv4_eq_none (h : (s.dropWhile Char.isDigit).head? ≠ some '.') :
    readIPv4 s = none := by
  cases hoctet : readOctet s with
  | none => simp [readIPv4, hoctet]
  | some p =>
    obtain ⟨n, rest⟩ := p
    have hrest : rest.head? ≠ some '.' := readOctet_snd hoctet ▸ h
    simp [readIPv4, hoctet, after_of_head?_ne hrest]

end LightHub.Net
