/-
  Network addresses as text.

  * `parseIP?`, `ipText`: an address of either family.
  * `parseSocket?`, `socketText`: an address with a port: `1.2.3.4:80` or
    `[::1]:80`.  The zone of an IPv6 address is read and left out.
-/
import LightHub.Net.Ipv6

namespace LightHub.Net

open Std.Net

/-- The value of a text that `read` reads to its end. -/
def whole {α : Type} (read : List Char → Option (α × List Char)) (s : String) : Option α :=
  match read s.toList with
  | some (a, []) => some a
  | _ => none

/-- An address of either family at the head of a text, and the rest. -/
def readIP (s : List Char) : Option (IPAddr × List Char) :=
  match readIPv4 s with
  | some (a, rest) => some (.v4 a, rest)
  | none => (readIPv6 s).map fun (a, rest) => (.v6 a, rest)

def parseIP? (s : String) : Option IPAddr :=
  whole readIP s

def ipText : IPAddr → String
  | .v4 a => ipv4Text a
  | .v6 a => ipv6Text a

/-! ## Ports -/

/-- A numeral without sign, leading zeros allowed, of at most `max`; and the rest. -/
def readDecimal (max : Nat) (s : List Char) : Option (Nat × List Char) :=
  ((Text.natural? (s.takeWhile Char.isDigit)).filter (· ≤ max)).map fun n =>
    (n, s.dropWhile Char.isDigit)

/-- A colon and a port, and the rest. -/
def readPort (s : List Char) : Option (UInt16 × List Char) :=
  (after ':' (readDecimal (UInt16.size - 1)) s).map fun (n, rest) => (UInt16.ofNat n, rest)

/-- What follows a zone, if there is one. -/
def dropZone (s : List Char) : List Char :=
  match after '%' (readDecimal (UInt32.size - 1)) s with
  | some (_, rest) => rest
  | none => s

/-- An IPv6 address between brackets, with an optional zone, and the rest. -/
def readBracketed (s : List Char) : Option (IPv6Addr × List Char) := do
  let (a, s) ← after '[' readIPv6 s
  match dropZone s with
  | ']' :: s => return (a, s)
  | _ => none

/-- The address of a host's port. -/
def socket (ip : IPAddr) (port : UInt16) : SocketAddress :=
  match ip with
  | .v4 a => .v4 ⟨a, port⟩
  | .v6 a => .v6 ⟨a, port⟩

/-- An address with a port at the head of a text, and the rest. -/
def readSocket (s : List Char) : Option (SocketAddress × List Char) :=
  let v4 := do
    let (a, s) ← readIPv4 s
    let (port, s) ← readPort s
    return (socket (.v4 a) port, s)
  let v6 := do
    let (a, s) ← readBracketed s
    let (port, s) ← readPort s
    return (socket (.v6 a) port, s)
  v4.or v6

def parseSocket? (s : String) : Option SocketAddress :=
  whole readSocket s

def socketIP : SocketAddress → IPAddr
  | .v4 s => .v4 s.addr
  | .v6 s => .v6 s.addr

def socketPort : SocketAddress → UInt16
  | .v4 s => s.port
  | .v6 s => s.port

/-- An address with a port; brackets set an IPv6 address off from it. -/
def socketText (s : SocketAddress) : String :=
  let port := ":" ++ toString (socketPort s).toNat
  match s with
  | .v4 s => ipv4Text s.addr ++ port
  | .v6 s => "[" ++ ipv6Text s.addr ++ "]" ++ port

end LightHub.Net
