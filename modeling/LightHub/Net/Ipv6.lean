/-
  IPv6 addresses as text: eight groups of hexadecimal digits with colons
  between them.  `::` stands for one run of zero groups, and the last two groups
  may be written as an IPv4 address.

  * `readIPv6`: an address at the head of a text, and the rest.
  * `longestZeros`: the first of the longest runs of zero groups.
  * `ipv6Text`: the shortest form.  The longest run of two or more zero groups
    is left out, and an address that stands for an IPv4 one shows it.
-/
import LightHub.Net.Ipv4

namespace LightHub.Net

open Std.Net

/-! ## Reading -/

/-- A group of one to four digits, and the rest. -/
def readGroup (s : List Char) : Option (UInt16 × List Char) :=
  let digits := s.takeWhile fun c => (Text.hexDigit? c).isSome
  if 4 < digits.length then none
  else (Text.hex? digits).map fun n => (UInt16.ofNat n, s.drop digits.length)

/-- The two groups that an IPv4 address stands for. -/
def groupsOfIPv4 (a : IPv4Addr) : List UInt16 :=
  match a.octets.toList with
  | [a, b, c, d] => [a.toUInt16 <<< 8 ||| b.toUInt16, c.toUInt16 <<< 8 ||| d.toUInt16]
  | _ => []

/-- Wants a colon first, except at the start. -/
def spaced {α : Type} (start : Bool) (read : List Char → Option (α × List Char)) :
    List Char → Option (α × List Char) :=
  if start then read else after ':' read

/-- As many groups as there are, up to `limit`; whether the last two of them
    were written as an IPv4 address, which ends them; and the rest. -/
def readGroups : (limit : Nat) → (start : Bool) → List Char → List UInt16 × Bool × List Char
  | 0, _, s => ([], false, s)
  | left + 1, start, s =>
    match if left = 0 then none else spaced start readIPv4 s with
    | some (a, rest) => (groupsOfIPv4 a, true, rest)
    | none =>
      match spaced start readGroup s with
      | none => ([], false, s)
      | some (g, rest) =>
        let (gs, dotted, rest) := readGroups left false rest
        (g :: gs, dotted, rest)

/-- The address of eight groups. -/
def ipv6OfGroups (gs : List UInt16) : IPv6Addr :=
  .ofParts (gs.getD 0 0) (gs.getD 1 0) (gs.getD 2 0) (gs.getD 3 0) (gs.getD 4 0) (gs.getD 5 0)
    (gs.getD 6 0) (gs.getD 7 0)

/-- An address at the head of a text, and the rest. -/
def readIPv6 (s : List Char) : Option (IPv6Addr × List Char) :=
  let (head, dotted, rest) := readGroups 8 true s
  if head.length = 8 then some (ipv6OfGroups head, rest)
  else if dotted then none
  else
    match rest with
    | ':' :: ':' :: rest =>
      let (tail, _, rest) := readGroups (7 - head.length) true rest
      let zeros := List.replicate (8 - head.length - tail.length) 0
      some (ipv6OfGroups (head ++ zeros ++ tail), rest)
    | _ => none

/-! ## Writing -/

/-- The start and the length of the first of the longest runs of zeros. -/
def longestZeros : List UInt16 → Nat × Nat
  | [] => (0, 0)
  | g :: gs =>
    let (start, length) := longestZeros gs
    let here := ((g :: gs).takeWhile (· = 0)).length
    if length ≤ here then (0, here) else (start + 1, length)

/-- Groups with colons between them, without leading zeros. -/
def groupsText (gs : List UInt16) : String :=
  ":".intercalate (gs.map fun g => String.ofList (Nat.toDigits 16 g.toNat))

/-- The IPv4 address that an IPv6 address stands for, if it does. -/
def mappedIPv4? (gs : List UInt16) : Option IPv4Addr :=
  match gs with
  | [0, 0, 0, 0, 0, 0xFFFF, high, low] =>
    some (.ofParts (high >>> 8).toUInt8 high.toUInt8 (low >>> 8).toUInt8 low.toUInt8)
  | _ => none

/-- The shortest form of an address. -/
def ipv6Text (a : IPv6Addr) : String :=
  let gs := a.segments.toList
  match mappedIPv4? gs with
  | some v4 => "::ffff:" ++ ipv4Text v4
  | none =>
    let (start, length) := longestZeros gs
    if 1 < length then
      groupsText (gs.take start) ++ "::" ++ groupsText (gs.drop (start + length))
    else groupsText gs

end LightHub.Net
