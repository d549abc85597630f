/-
  Letter case, for the ASCII letters only: every other character is its own
  upper-case and lower-case form.

  * `upper`, `lower`: a text with its ASCII letters in one case.
  * `sameLetters`: equality up to the case of ASCII letters.
  * `begins`: whether a text begins with another one.
-/
namespace LightHub.Text

/-- A text with its ASCII letters in upper case. -/
def upper (s : String) : String :=
  String.ofList (s.toList.map Char.toUpper)

/-- A text with its ASCII letters in lower case. -/
def lower (s : String) : String :=
  String.ofList (s.toList.map Char.toLower)

/-- Equality up to the case of ASCII letters. -/
def sameLetters (a b : String) : Bool :=
  lower a == lower b

/-- Whether a text begins with `start`. -/
def begins (start s : String) : Bool :=
  start.toList.isPrefixOf s.toList

theorem sameLetters_iff {a b : String} : sameLetters a b = true ↔ lower a = lower b := by
  simp [sameLetters]

end LightHub.Text
