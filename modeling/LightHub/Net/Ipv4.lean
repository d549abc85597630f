/-
  IPv4 addresses as text: four decimal numbers with dots between them.

  * `after`: a reader that first wants a given character.
  * `readIPv4`: an address at the head of a text, and the rest.  A number has
    at most three digits and no leading zero, so that none can be taken for an
    octal one.
  * `ipv4Text`: the text of an address.
-/
import Std.Net.Addr
import LightHub.Text.Numeral

namespace LightHub.Net

open Std.Net

/-- Reads with `read` what follows the character `c`. -/
def after {α : Type} (c : Char) (read : List Char → Option (α × List Char)) :
    List Char → Option (α × List Char)
  | [] => none
  | d :: rest => if d = c then read rest else none

/-- One of the four numbers, and the rest. -/
def readOctet (s : List Char) : Option (UInt8 × List Char) :=
  let digits := s.takeWhile Char.isDigit
  if 3 < digits.length ∨ (digits.head? = some '0' ∧ 1 < digits.length) then none
  else (Text.uint8? digits).map fun n => (n, s.dropWhile Char.isDigit)

/-- An address at the head of a text, and the rest. -/
def readIPv4 (s : List Char) : Option (IPv4Addr × List Char) := do
  let (a, s) ← readOctet s
  let (b, s) ← after '.' readOctet s
  let (c, s) ← after '.' readOctet s
  let (d, s) ← after '.' readOctet s
  return (.ofParts a b c d, s)

/-- The four numbers with dots between them. -/
def ipv4Text (a : IPv4Addr) : String :=
  ".".intercalate (a.octets.toList.map fun n => toString n.toNat)

end LightHub.Net
