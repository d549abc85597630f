/-
  Decimal numerals.

  * `natural?`: the value of a non-empty run of ASCII digits (leading zeros
    allowed).
  * `unsigned?`: a natural number up to a bound, with an optional plus.
  * `signed?`: an integer between two bounds, with an optional sign.
  * `hexDigit?`, `hex?`: hexadecimal digits, in either letter case.
  * `uint8?`, `uint32?`, `uint64?`, `int64?`: numerals that fit in a word of that
    width.
  * `natural?_toDigits`: the digits of a number read back as that number.
-/
namespace LightHub.Text

/-- The value of a non-empty run of ASCII digits. -/
def natural? (cs : List Char) : Option Nat :=
  if cs ≠ [] ∧ cs.all Char.isDigit then some (Nat.ofDigitChars 10 cs 0) else none

/-- A numeral without its optional plus. -/
def dropPlus : List Char → List Char
  | '+' :: rest => rest
  | cs => cs

/-- A natural number of at most `max`, with an optional plus. -/
def unsigned? (max : Nat) (cs : List Char) : Option Nat :=
  (natural? (dropPlus cs)).filter (· ≤ max)

/-- An integer from `min` to `max`, with an optional sign. -/
def signed? (min max : Int) (cs : List Char) : Option Int :=
  let value := match cs with
    | '-' :: rest => (natural? rest).map fun n => -(n : Int)
    | _ => (natural? (dropPlus cs)).map fun n => (n : Int)
  value.filter fun n => min ≤ n ∧ n ≤ max

/-- The value of a hexadecimal digit. -/
def hexDigit? (c : Char) : Option Nat :=
  if c.isDigit then some (c.toNat - '0'.toNat)
  else if 'a' ≤ c ∧ c ≤ 'f' then some (c.toNat - 'a'.toNat + 10)
  else if 'A' ≤ c ∧ c ≤ 'F' then some (c.toNat - 'A'.toNat + 10)
  else none

/-- The value of a run of hexadecimal digits, after digits worth `high`. -/
def hexFrom? (high : Nat) : List Char → Option Nat
  | [] => some high
  | c :: cs => (hexDigit? c).bind fun d => hexFrom? (16 * high + d) cs

/-- The value of a non-empty run of hexadecimal digits. -/
def hex? (cs : List Char) : Option Nat :=
  if cs = [] then none else hexFrom? 0 cs

/-! ## Words -/

def uint8? (cs : List Char) : Option UInt8 :=
  (unsigned? (UInt8.size - 1) cs).map UInt8.ofNat

def uint32? (cs : List Char) : Option UInt32 :=
  (unsigned? (UInt32.size - 1) cs).map UInt32.ofNat

def uint64? (cs : List Char) : Option UInt64 :=
  (unsigned? (UInt64.size - 1) cs).map UInt64.ofNat

def int64? (cs : List Char) : Option Int64 :=
  (signed? Int64.minValue.toInt Int64.maxValue.toInt cs).map Int64.ofInt

theorem natural?_toDigits (n : Nat) : natural? (Nat.toDigits 10 n) = some n := by
  have h : (Nat.toDigits 10 n).all Char.isDigit = true :=
    List.all_eq_true.2 fun _ hc => Nat.isDigit_of_mem_toDigits (by decide) (by decide) hc
  simp [natural?, h, Nat.toDigits_ne_nil, Nat.ofDigitChars_ten_toDigits]

end LightHub.Text
