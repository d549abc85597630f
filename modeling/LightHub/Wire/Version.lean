/-
  Protocol versions.  Every request ends with the version of the session, and
  every reply starts with one.

  * `Version`: a major and a minor number, in lexicographic order.
  * `Generation`: the two families of hubs; `Version.generation` tells them
    apart.
  * `Version.text`: `KL/<major>.<minor>`.
  * `Version.parse?`: reads that text.  The prefix may be left out or be in any
    letter case; the version 0.0 is refused.
-/
import LightHub.Text.Numeral

namespace LightHub

/-- A family of request formats. -/
inductive Generation where
  /-- Raw radio codes: `ADD <name> <on> <off> <pulse>`, `TRANSMIT <code> <pulse>` -/
  | rf
  /-- Message topics: `ADD <name> <topic> <type>`, `TRANSMIT <topic> <message>` -/
  | mqtt
  deriving DecidableEq

def Generation.name : Generation → String
  | rf => "RF"
  | mqtt => "MQTT"

structure Version where
  major : UInt8
  minor : UInt8
  deriving DecidableEq

namespace Version

/-- The major number counts first. -/
instance : LE Version :=
  ⟨fun a b => a.major < b.major ∨ a.major = b.major ∧ a.minor ≤ b.minor⟩

instance (a b : Version) : Decidable (a ≤ b) :=
  inferInstanceAs (Decidable (a.major < b.major ∨ a.major = b.major ∧ a.minor ≤ b.minor))

instance : Ord Version :=
  ⟨fun a b => if a = b then .eq else if a ≤ b then .lt else .gt⟩

/-- The first version with topic-based device records. -/
def mqttBridge : Version := ⟨0, 3⟩

/-- The version spoken when nothing else is configured. -/
def current : Version := mqttBridge

/-- The family of request formats that hubs of a version speak. -/
def generation (v : Version) : Generation :=
  if mqttBridge ≤ v then .mqtt else .rf

/-! ## Text -/

/-- The version token: `KL/<major>.<minor>`. -/
def text (v : Version) : String :=
  "KL/" ++ toString v.major.toNat ++ "." ++ toString v.minor.toNat

/-- A version text without its prefix, if it has one. -/
def dropTag : List Char → List Char
  | k :: l :: '/' :: rest =>
    if k.toUpper = 'K' ∧ l.toUpper = 'L' then rest else k :: l :: '/' :: rest
  | cs => cs

/-- Reads `major.minor`: both are numerals of one byte, and not both are zero. -/
def ofNumbers? (cs : List Char) : Option Version :=
  match cs.dropWhile (· ≠ '.') with
  | [] => none
  | _ :: minor => do
    let major ← Text.uint8? (cs.takeWhile (· ≠ '.'))
    let minor ← Text.uint8? minor
    if major = 0 ∧ minor = 0 then none else some ⟨major, minor⟩

/-- Reads a version text, with or without its prefix. -/
def parse? (s : String) : Option Version :=
  ofNumbers? (dropTag s.toList)

end Version

end LightHub
