/-
  Device types.  A hub knows eight of them and gets them by number.

  * `DeviceType`, `DeviceType.id`, `DeviceType.ofId?`: the types and their
    numbers.
  * `DeviceType.takesCommands`: power strips are added with a count of relays,
    custom devices with a list of commands, and all others with neither.
  * `DeviceType.parse`: reads a number or a name, in any letter case and with
    blanks around it; `DeviceType.Unknown` says what is wrong with the others.
-/
import LightHub.Text.Blank
import LightHub.Text.Letters
import LightHub.Text.Numeral

namespace LightHub

inductive DeviceType where
  | outlet
  | powerStrip
  | dimmable
  | cct
  | rgb
  | rgbw
  | rgbCct
  | custom
  deriving DecidableEq

namespace DeviceType

/-- The number of a type on the wire. -/
def id : DeviceType → Nat
  | outlet => 0
  | powerStrip => 1
  | dimmable => 2
  | cct => 3
  | rgb => 4
  | rgbw => 5
  | rgbCct => 6
  | custom => 7

def ofId? : Nat → Option DeviceType
  | 0 => some outlet
  | 1 => some powerStrip
  | 2 => some dimmable
  | 3 => some cct
  | 4 => some rgb
  | 5 => some rgbw
  | 6 => some rgbCct
  | 7 => some custom
  | _ => none

/-- The name of a type in messages. -/
def name : DeviceType → String
  | outlet => "Outlet"
  | powerStrip => "PowerStrip"
  | dimmable => "Dimmable"
  | cct => "Cct"
  | rgb => "Rgb"
  | rgbw => "Rgbw"
  | rgbCct => "RgbCct"
  | custom => "Custom"

/-- Whether a device of this type is added with a commands argument. -/
def takesCommands : DeviceType → Bool
  | powerStrip | custom => true
  | _ => false

/-- What keeps a text from naming a device type. -/
inductive Unknown where
  /-- A number of one byte that is no type's -/
  | id (n : Nat)
  /-- Neither a number of one byte nor a name -/
  | name (text : String)
  deriving DecidableEq

/-- Reads a name in lower case.  Three types go by a whole word, the others by
    how the word begins; the longer names that begin with `rgb` come first. -/
def ofName? (t : String) : Option DeviceType :=
  if t = "outlet" ∨ t = "toggleable" ∨ t = "outlet/toggleable" then some outlet
  else if t = "strip" ∨ t = "powerstrip" then some powerStrip
  else if t = "custom" then some custom
  else if Text.begins "dim" t then some dimmable
  else if Text.begins "cct" t then some cct
  else if Text.begins "rgbcct" t then some rgbCct
  else if Text.begins "rgbw" t then some rgbw
  else if Text.begins "rgb" t then some rgb
  else none

/-- Reads a number or a name, in any letter case and with blanks around it. -/
def parse (s : String) : Except Unknown DeviceType :=
  let t := Text.lower (Text.trim s)
  match Text.uint8? t.toList with
  | some n =>
    match ofId? n.toNat with
    | some type => .ok type
    | none => .error (.id n.toNat)
  | none =>
    match ofName? t with
    | some type => .ok type
    | none => .error (.name s)

theorem ofId?_id (type : DeviceType) : ofId? type.id = some type := by
  cases type <;> rfl

end DeviceType

end LightHub
