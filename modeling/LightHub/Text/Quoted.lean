/-
  Quoted text, as it stands in messages: between double quotes, with a quote or
  a backslash escaped by a backslash, the usual letters for tab, line feed,
  carriage return and NUL, and the code point in hexadecimal for every other
  character that is not printable.
-/
import LightHub.Text.Printable

namespace LightHub.Text

/-- A character as it stands in a quoted text. -/
def escaped (c : Char) : List Char :=
  if c = '"' then ['\\', '"']
  else if c = '\\' then ['\\', '\\']
  else if c = '\t' then ['\\', 't']
  else if c = '\n' then ['\\', 'n']
  else if c = '\r' then ['\\', 'r']
  else if c = '\x00' then ['\\', '0']
  else if isPrintable c then [c]
  else ['\\', 'u', '{'] ++ Nat.toDigits 16 c.toNat ++ ['}']

/-- A text between double quotes, with what cannot be shown escaped. -/
def quoted (s : String) : String :=
  "\"" ++ String.ofList (s.toList.flatMap escaped) ++ "\""

end LightHub.Text
